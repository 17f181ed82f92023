import Phrasebook.Proofs.Url.Host
import Phrasebook.Proofs.Url.Path

/-!
# Reading URLs back

A URL is kept in the spelling in which it is written (`IsKept`), so what is written is read as the
same URL: `IsKept.parse_toString`, for the URLs with an authority that `isKept_of_parse` says there
are.  The host is the only part that has to be read again for this, and may be refused then: so what
is written is read as what its host is read as (`IsKept.parse_toString_eq_map`).

* Each reader of a part has a lemma that says when it gives what: `readAuthority_eq_ok_iff`,
  `readLocation_eq_ok_iff`, `parse_eq_ok_iff`.
* `isPlain` are the characters that end none of the parts in front of the query, and
  `Location.IsKept.isPlain`: a location has no others.
-/

namespace Phrasebook.Url

open Phrasebook.Text

variable {s scheme : List Char} {c : Char} {more : Bool}

/-! ### Cutting -/

theorem cutOff_of_not_mem (h : c ∉ s) : cutOff c s = (s, none) := by
  unfold cutOff
  rw [cut?_eq_none h]

/-- A part behind its sign is cut off again if the sign does not stand in front of it. -/
theorem cutOff_append_renderOptional (h : c ∉ s) (part : Option (List Char)) :
    cutOff c (s ++ renderOptional c part) = (s, part) := by
  cases part with
  | none =>
    rw [renderOptional, List.append_nil]
    exact cutOff_of_not_mem h
  | some part =>
    unfold cutOff
    rw [renderOptional, cut?_append h]

/-- Whether a character ends neither an authority nor a path, and is not dropped. -/
def isPlain (c : Char) : Bool :=
  0x20 < c.toNat && c != '?' && c != '#'

/-- Whether a character does not end an authority, and is not dropped. -/
def isPlainInAuthority (c : Char) : Bool :=
  isPlain c && !isSlash true c

/-! ### Sockets -/

theorem bound_of_readSocket {digits : List Char} {socket : Option ℕ}
    (h : readSocket scheme digits = .ok socket) :
    ∀ n, socket = some n → n ≤ 65535 ∧ usualSocket scheme ≠ some n := by
  unfold readSocket at h
  split_ifs at h with hempty hdigits
  · obtain rfl := Except.ok.inj h
    exact fun n hn => nomatch hn
  · obtain rfl := Except.ok.inj h
    intro n hn
    split_ifs at hn with husual
    obtain rfl := Option.some.inj hn
    rw [Bool.and_eq_true, decide_eq_true_eq] at hdigits
    exact ⟨hdigits.2, husual⟩

theorem readSocket_decimal {n : ℕ} (hbound : n ≤ 65535) (husual : usualSocket scheme ≠ some n) :
    readSocket scheme (decimal n) = .ok (some n) := by
  have hempty : ¬ (decimal n).isEmpty = true := by simpa using decimal_ne_nil n
  have hdigits : ((decimal n).all isDigit && decide (digitsValue (decimal n) ≤ 65535)) = true := by
    rw [Bool.and_eq_true, digitsValue_decimal, decide_eq_true_eq]
    exact ⟨List.all_eq_true.2 fun c hc => isDigit_of_mem_decimal hc, hbound⟩
  unfold readSocket
  rw [if_neg hempty, if_pos hdigits, digitsValue_decimal]
  exact congrArg Except.ok (if_neg husual)

/-! ### Authorities -/

/-- A host whose text is told from what stands around it in an authority. -/
structure Host.IsDelimited (host : Host) : Prop where
  nonempty : host.render ≠ []
  plain : ∀ c ∈ host.render, isPlainInAuthority c = true
  noAt : '@' ∉ host.render
  cut : ∀ rest, cutSocket false (host.render ++ rest) =
    (host.render ++ (cutSocket false rest).1, (cutSocket false rest).2)

/-- An authority as it is kept in a URL with this scheme. -/
structure Authority.IsKept (scheme : List Char) (a : Authority) : Prop where
  username : IsEncoded userinfoSet a.username
  password : IsEncoded userinfoSet a.password
  host : a.host.IsDelimited
  socket : ∀ n, a.socket = some n → n ≤ 65535 ∧ usualSocket scheme ≠ some n

theorem readHost_true_eq_ok_iff {bound : Bool} {host : Host} :
    readHost true bound s = .ok host ↔ s.isEmpty = false ∧ Host.parseSpecial s = .ok host := by
  unfold readHost
  rw [if_pos rfl]
  split_ifs with hempty
  · exact iff_of_false (fun h => nomatch h) fun h => Bool.false_ne_true (h.1.symm.trans hempty)
  · exact ⟨fun h => ⟨Bool.eq_false_iff.2 hempty, h⟩, And.right⟩

/-- With a special scheme, an authority is read from its credentials, its host and its socket. -/
theorem readAuthority_eq_ok_iff {authority : Authority} {behind : List Char}
    (hspecial : isSpecial scheme = true) :
    readAuthority scheme s more = .ok (authority, behind) ↔
      ¬ (decide (s = ['@']) && more) = true ∧
      ∃ credentials server host socket, (cutLast? '@' s).getD ([], s) = (credentials, server) ∧
        readCredentials credentials = (authority.username, authority.password) ∧
        cutSocket false server = (host, socket) ∧
        (host.isEmpty = false ∧ Host.parseSpecial host = .ok authority.host) ∧
        readSocket scheme ((socket.getD []).takeWhile (· != '\\')) = .ok authority.socket ∧
        (socket.getD []).dropWhile (· != '\\') = behind := by
  rcases hcut : (cutLast? '@' s).getD ([], s) with ⟨credentials, server⟩
  rcases hcredentials : readCredentials credentials with ⟨username, password⟩
  rcases hserver : cutSocket false server with ⟨host, socket⟩
  unfold readAuthority
  rw [hcut]
  dsimp only
  rw [hcredentials, hserver, hspecial]
  dsimp only
  by_cases hguard : (decide (s = ['@']) && more) = true
  · -- A lone `@` with something behind the authority has no host.
    rw [if_pos hguard]
    exact iff_of_false (fun h => nomatch h) fun h => h.1 hguard
  rw [if_neg hguard]
  constructor
  · intro h
    obtain ⟨kept, hhost, h⟩ := except_bind_eq_ok_iff.1 h
    obtain ⟨number, hsocket, h⟩ := except_bind_eq_ok_iff.1 h
    obtain ⟨rfl, rfl⟩ := Prod.mk.inj (Except.ok.inj h)
    exact ⟨hguard, credentials, server, host, socket, rfl, hcredentials, hserver,
      readHost_true_eq_ok_iff.1 hhost, hsocket, rfl⟩
  · rintro ⟨-, _, _, _, _, hcut', hcredentials', hserver', hhost, hsocket, rfl⟩
    obtain ⟨rfl, rfl⟩ := Prod.mk.inj hcut'
    obtain ⟨rfl, rfl⟩ := Prod.mk.inj (hcredentials.symm.trans hcredentials')
    obtain ⟨rfl, rfl⟩ := Prod.mk.inj (hserver.symm.trans hserver')
    rw [readHost_true_eq_ok_iff.2 hhost]
    show (readSocket scheme _ >>= _) = _
    rw [hsocket]
    rfl

/-- A host with its socket, as it is written. -/
def Authority.server (a : Authority) : List Char :=
  a.host.render ++ renderOptional ':' (a.socket.map decimal)

theorem Authority.render_eq (a : Authority) :
    a.render = renderCredentials a.username a.password ++ a.server := by
  unfold Authority.render Authority.server
  rw [List.append_assoc]
  cases a.socket <;> rfl

theorem exists_renderCredentials {username password : List Char}
    (husername : IsEncoded userinfoSet username) (hpassword : IsEncoded userinfoSet password) :
    (username = [] ∧ password = [] ∧ renderCredentials username password = []) ∨
    ∃ credentials, renderCredentials username password = credentials ++ ['@'] ∧
      readCredentials credentials = (username, password) := by
  have hcolon : ':' ∉ username := husername.not_mem (by decide)
  have hself : encodeWith userinfoSet username = username := husername.encodeWith_eq_self
  have hself' : encodeWith userinfoSet password = password := hpassword.encodeWith_eq_self
  -- The colon is written only in front of a password, the `@` behind any credentials.
  by_cases hnone : password = []
  · subst hnone
    by_cases husername : username = []
    · exact Or.inl ⟨husername, rfl, by simp [renderCredentials, husername]⟩
    · refine Or.inr ⟨username, by simp [renderCredentials, husername], ?_⟩
      unfold readCredentials
      rw [cutOff_of_not_mem hcolon]
      dsimp only
      rw [hself]
      rfl
  · refine Or.inr ⟨username ++ ':' :: password, by simp [renderCredentials, hnone], ?_⟩
    have hcut := cutOff_append_renderOptional hcolon (some password)
    unfold readCredentials
    rw [show username ++ ':' :: password = username ++ renderOptional ':' (some password) from rfl,
      hcut]
    dsimp only [Option.getD_some]
    rw [hself, hself']

theorem cutSocket_cons_of_false {c : Char} (hc : c ≠ ':' ∧ c ≠ '[' ∧ c ≠ ']') (inBrackets : Bool)
    (s : List Char) :
    cutSocket inBrackets (c :: s) =
      (c :: (cutSocket inBrackets s).1, (cutSocket inBrackets s).2) := by
  rw [cutSocket, if_neg (by simp [hc.1])]
  simp [hc.2.1, hc.2.2]

/-- A text without colons and brackets belongs to the host. -/
theorem cutSocket_append {l : List Char} (hl : ∀ c ∈ l, c ≠ ':' ∧ c ≠ '[' ∧ c ≠ ']')
    (rest : List Char) :
    cutSocket false (l ++ rest) = (l ++ (cutSocket false rest).1, (cutSocket false rest).2) := by
  induction l with
  | nil => rfl
  | cons c l ih =>
    obtain ⟨hc, hl⟩ := List.forall_mem_cons.1 hl
    rw [List.cons_append, cutSocket_cons_of_false hc, ih hl]
    rfl

/-- Between brackets, colons belong to the host, too. -/
theorem cutSocket_true_append {l : List Char} (hl : ∀ c ∈ l, c ≠ '[' ∧ c ≠ ']')
    (rest : List Char) :
    cutSocket true (l ++ ']' :: rest) =
      (l ++ ']' :: (cutSocket false rest).1, (cutSocket false rest).2) := by
  induction l with
  | nil => rfl
  | cons c l ih =>
    obtain ⟨hc, hl⟩ := List.forall_mem_cons.1 hl
    rw [List.cons_append, cutSocket, if_neg (by simp)]
    simp [hc.1, hc.2, ih hl]

theorem cutSocket_render {host : Host} (h : host.Special) (rest : List Char) :
    cutSocket false (host.render ++ rest) =
      (host.render ++ (cutSocket false rest).1, (cutSocket false rest).2) := by
  have hname : ∀ {name : List Char}, name.any isForbiddenInDomain = false →
      ∀ c ∈ name, c ≠ ':' ∧ c ≠ '[' ∧ c ≠ ']' := by
    intro name hallowed c hc
    refine ⟨?_, ?_, ?_⟩
    all_goals
      rintro rfl
      exact Host.not_mem_of_allowed hallowed (by decide) hc
  cases h with
  | domain ascii allowed nonempty named => exact cutSocket_append (hname allowed) rest
  | ipv4 bound => exact cutSocket_append (hname (Host.allowed_renderIpv4 _)) rest
  | @ipv6 pieces address =>
    have hchars := forall_mem_renderIpv6 (P := fun c => c ≠ '[' ∧ c ≠ ']') (by decide) (by decide)
      pieces
    -- Within the brackets colons are passed over.
    have hinner := cutSocket_true_append hchars rest
    show cutSocket false ('[' :: (renderIpv6 pieces ++ [']'] ++ rest)) = _
    rw [List.append_assoc, List.singleton_append, cutSocket, if_neg (by decide)]
    dsimp only
    rw [if_pos (by decide), hinner]
    simp [Host.render]

theorem isPlainInAuthority_of_isHostChar (h : Host.isHostChar c = true) :
    isPlainInAuthority c = true := by
  have hascii : c.toNat < 0x80 := by
    simp only [Host.isHostChar, isForbiddenInDomain, Bool.or_eq_true, Bool.not_eq_true',
      Bool.or_eq_false_iff, decide_eq_false_iff_not] at h
    rcases h with h | h
    · omega
    · obtain rfl | rfl | rfl : c = '[' ∨ c = ':' ∨ c = ']' := by simpa using h
      all_goals decide
  have hall : ∀ n < 0x80, Host.isHostChar (Char.ofNat n) = true →
      isPlainInAuthority (Char.ofNat n) = true := by decide +kernel
  rw [← Char.ofNat_toNat c] at h ⊢
  exact hall c.toNat hascii h

theorem Host.Special.isDelimited {host : Host} (h : host.Special) : host.IsDelimited where
  nonempty := h.render_ne_nil
  plain := fun c hc => isPlainInAuthority_of_isHostChar (h.isHostChar c hc)
  noAt := fun hmem => absurd (h.isHostChar '@' hmem) (by decide)
  cut := cutSocket_render h

theorem isKept_of_readAuthority {authority : Authority} {behind : List Char}
    (hspecial : isSpecial scheme = true)
    (h : readAuthority scheme s more = .ok (authority, behind)) :
    authority.IsKept scheme ∧ authority.host.Special := by
  obtain ⟨-, credentials, server, host, socket, -, hcredentials, -, ⟨-, hhost⟩, hsocket, -⟩ :=
    (readAuthority_eq_ok_iff hspecial).1 h
  have hspecialHost := Host.special_of_parseSpecial hhost
  refine ⟨⟨?_, ?_, hspecialHost.isDelimited, bound_of_readSocket hsocket⟩, hspecialHost⟩
  · have husername : (readCredentials credentials).1 = authority.username :=
      congrArg Prod.fst hcredentials
    rw [← husername]
    exact isEncoded_encodeWith isEncodeSet_userinfoSet _
  · have hpassword : (readCredentials credentials).2 = authority.password :=
      congrArg Prod.snd hcredentials
    rw [← hpassword]
    exact isEncoded_encodeWith isEncodeSet_userinfoSet _

theorem cutSocket_renderOptional (socket : Option (List Char)) :
    cutSocket false (renderOptional ':' socket) = ([], socket) := by
  cases socket <;> rfl

namespace Authority.IsKept

variable {a : Authority}

/-- Behind the host there are a colon and digits at most. -/
theorem forall_mem_server {P : Char → Prop} (hcolon : P ':') (hdigit : ∀ n < 10, P (digitChar n))
    (hhost : ∀ c ∈ a.host.render, P c) : ∀ c ∈ a.server, P c := by
  intro c hc
  unfold Authority.server at hc
  rcases List.mem_append.1 hc with hc | hc
  · exact hhost c hc
  · cases hsocket : a.socket with
    | none =>
      rw [hsocket] at hc
      exact nomatch hc
    | some n =>
      rw [hsocket] at hc
      rcases List.mem_cons.1 hc with rfl | hc
      · exact hcolon
      · exact forall_isDigit hdigit (isDigit_of_mem_decimal hc)

theorem server_ne_nil (h : a.IsKept scheme) : a.server ≠ [] :=
  List.append_ne_nil_of_left_ne_nil h.host.nonempty _

theorem cutSocket_server (h : a.IsKept scheme) :
    cutSocket false a.server = (a.host.render, a.socket.map decimal) := by
  unfold Authority.server
  rw [h.host.cut, cutSocket_renderOptional, List.append_nil]

theorem readSocket_getD (h : a.IsKept scheme) :
    readSocket scheme ((a.socket.map decimal).getD []) = .ok a.socket := by
  cases hsome : a.socket with
  | none => rfl
  | some n =>
    obtain ⟨hbound, husual⟩ := h.socket n hsome
    exact readSocket_decimal hbound husual

/-- An authority that has been written is read back, with what its host is read as. -/
theorem readAuthority_render (hspecial : isSpecial scheme = true) (h : a.IsKept scheme)
    (more : Bool) :
    readAuthority scheme a.render more =
      (Host.parseSpecial a.host.render).map fun host => ({ a with host := host }, []) := by
  have hat : '@' ∉ a.server := fun hmem =>
    forall_mem_server (P := fun c => c ≠ '@') (by decide) (by decide)
      (fun c hc heq => h.host.noAt (heq ▸ hc)) '@' hmem rfl
  have hbackslash : ∀ c ∈ (a.socket.map decimal).getD [], (c != '\\') = true := by
    cases a.socket with
    | none => exact fun c hc => nomatch hc
    | some n =>
      exact fun c hc => forall_isDigit (P := fun c => (c != '\\') = true) (by decide)
        (isDigit_of_mem_decimal hc)
  obtain ⟨credentials, hcut, hcredentials, hne⟩ : ∃ credentials,
      (cutLast? '@' a.render).getD ([], a.render) = (credentials, a.server) ∧
        readCredentials credentials = (a.username, a.password) ∧ a.render ≠ ['@'] := by
    obtain ⟨husername, hpassword, hnone⟩ | ⟨credentials, hsome, hread⟩ :=
      exists_renderCredentials h.username h.password
    · have hrender : a.render = a.server := by rw [Authority.render_eq, hnone, List.nil_append]
      rw [hrender, cutLast?_eq_none hat, husername, hpassword]
      exact ⟨[], rfl, rfl, fun heq => hat (heq ▸ List.mem_cons_self)⟩
    · have hrender : a.render = credentials ++ '@' :: a.server := by
        rw [Authority.render_eq, hsome, List.append_assoc, List.singleton_append]
      refine ⟨credentials, by rw [hrender, cutLast?_append hat]; rfl, hread, fun heq => ?_⟩
      have hlength := congrArg List.length (hrender.symm.trans heq)
      have hserver := List.length_pos_iff.2 h.server_ne_nil
      simp at hlength
      omega
  have hhost : ¬ a.host.render.isEmpty = true := by simpa using h.host.nonempty
  have hguard : ¬ (decide (a.render = ['@']) && more) = true := by simp [hne]
  -- All parts but the host are known, and the host decides.
  unfold readAuthority
  rw [hcut]
  dsimp only
  rw [if_neg hguard, hcredentials, h.cutSocket_server, hspecial]
  dsimp only
  rw [List.takeWhile_eq_self_iff.2 hbackslash, List.dropWhile_eq_nil_iff.2 hbackslash,
    h.readSocket_getD, readHost, if_pos rfl, if_neg hhost]
  cases Host.parseSpecial a.host.render <;> rfl

theorem isPlainInAuthority (h : a.IsKept scheme) :
    ∀ c ∈ a.render, isPlainInAuthority c = true := by
  have huser : ∀ {s}, IsEncoded userinfoSet s → ∀ c ∈ s, Url.isPlainInAuthority c = true :=
    fun hs => hs.forall_mem (by decide +kernel)
  have hcredentials : ∀ c ∈ renderCredentials a.username a.password,
      Url.isPlainInAuthority c = true := by
    intro c hc
    unfold renderCredentials at hc
    split_ifs at hc
    · exact nomatch hc
    · rcases List.mem_append.1 hc with hc | hc
      · exact huser h.username c hc
      · exact List.mem_singleton.1 hc ▸ by decide
    · simp only [List.append_assoc, List.cons_append, List.mem_append, List.mem_cons,
        List.not_mem_nil, or_false] at hc
      rcases hc with hc | rfl | hc | rfl
      · exact huser h.username c hc
      · decide
      · exact huser h.password c hc
      · decide
  -- The credentials are encoded, and the host has only characters of its own.
  intro c hc
  rw [Authority.render_eq] at hc
  rcases List.mem_append.1 hc with hc | hc
  · exact hcredentials c hc
  · exact forall_mem_server (P := fun c => Url.isPlainInAuthority c = true) (by decide) (by decide)
      h.host.plain c hc

end Authority.IsKept

/-! ### Locations -/

/-- With a special scheme that is not that of files, a location is an authority and a path. -/
theorem readLocation_eq_ok_iff {location : Location} (hspecial : isSpecial scheme = true)
    (hweb : scheme ≠ fileScheme) :
    readLocation scheme s more = .ok location ↔
      ∃ authority behind,
        readAuthority scheme ((s.dropWhile (isSlash true)).takeWhile fun c => !isSlash true c)
          (more || !((s.dropWhile (isSlash true)).dropWhile fun c => !isSlash true c).isEmpty) =
            .ok (authority, behind) ∧
        location = .served authority (readServedPath true (behind ++
          (s.dropWhile (isSlash true)).dropWhile fun c => !isSlash true c)) := by
  unfold readLocation
  rw [if_neg hweb, if_pos hspecial]
  dsimp only
  rw [except_bind_eq_ok_iff]
  constructor
  · rintro ⟨⟨authority, behind⟩, hauthority, h⟩
    exact ⟨authority, behind, hauthority, (Except.ok.inj h).symm⟩
  · rintro ⟨authority, behind, hauthority, rfl⟩
    exact ⟨(authority, behind), hauthority, rfl⟩

/-- A location with an authority, as it is kept in a URL with this scheme. -/
inductive Location.IsKept (scheme : List Char) : Location → Prop
  | served {authority : Authority} {path : List (List Char)} (kept : authority.IsKept scheme)
      (nonempty : path ≠ []) (segments : ∀ segment ∈ path, IsSegment segment) :
      Location.IsKept scheme (.served authority path)

theorem isKept_of_readLocation {location : Location} (hspecial : isSpecial scheme = true)
    (hweb : scheme ≠ fileScheme) (h : readLocation scheme s more = .ok location) :
    location.IsKept scheme ∧
      ∃ authority path, location = .served authority path ∧ authority.host.Special := by
  obtain ⟨authority, behind, hauthority, rfl⟩ := (readLocation_eq_ok_iff hspecial hweb).1 h
  obtain ⟨hne, hsegments⟩ := isSegment_of_mem_readServedPath
    (behind ++ (s.dropWhile (isSlash true)).dropWhile fun c => !isSlash true c)
  obtain ⟨hkept, hhost⟩ := isKept_of_readAuthority hspecial hauthority
  exact ⟨.served hkept hne hsegments, _, _, rfl, hhost⟩

/-- A location that has been written is read back, with what its host is read as. -/
theorem Location.IsKept.readLocation_render {authority : Authority} {path : List (List Char)}
    (hspecial : isSpecial scheme = true) (hweb : scheme ≠ fileScheme)
    (h : (Location.served authority path).IsKept scheme) (more : Bool) :
    readLocation scheme (Location.served authority path).render more =
      (Host.parseSpecial authority.host.render).map fun host =>
        .served { authority with host := host } path := by
  cases h with
  | served kept nonempty segments =>
    have hspan : ∀ c ∈ authority.render, (!isSlash true c) = true := fun c hc =>
      (Bool.and_eq_true_iff.1 (kept.isPlainInAuthority c hc)).2
    have hne : authority.render ≠ [] := by
      rw [Authority.render_eq]
      exact List.append_ne_nil_of_right_ne_nil _ kept.server_ne_nil
    have hdrop : (Location.served authority path).render.dropWhile (isSlash true) =
        authority.render ++ renderPath path := by
      obtain ⟨c, rest, hcons⟩ := List.exists_cons_of_ne_nil hne
      have hc : ¬ isSlash true c = true := by
        simpa using hspan c (hcons ▸ List.mem_cons_self)
      show List.dropWhile _ ('/' :: '/' :: authority.render ++ renderPath path) = _
      rw [List.cons_append, List.cons_append, List.dropWhile_cons_of_pos (by decide),
        List.dropWhile_cons_of_pos (by decide), hcons, List.cons_append,
        List.dropWhile_cons_of_neg hc]
    -- The path begins with a slash, and the authority has none: so it ends where it ended.
    have hauthority : ((Location.served authority path).render.dropWhile (isSlash true)).takeWhile
        (fun c => !isSlash true c) = authority.render := by
      rw [hdrop, renderPath_eq nonempty, takeWhile_span hspan (by decide)]
    have hpath : ((Location.served authority path).render.dropWhile (isSlash true)).dropWhile
        (fun c => !isSlash true c) = renderPath path := by
      rw [hdrop, renderPath_eq nonempty, dropWhile_span hspan (by decide)]
    unfold readLocation
    rw [if_neg hweb, if_pos hspecial]
    dsimp only
    rw [hauthority, hpath, kept.readAuthority_render hspecial]
    cases Host.parseSpecial authority.host.render with
    | error e => rfl
    | ok host =>
      show Except.ok (Location.served _ (readServedPath true ([] ++ renderPath path))) = _
      rw [List.nil_append, readServedPath_renderPath nonempty segments]
      rfl

theorem Location.IsKept.isPlain {location : Location} (h : location.IsKept scheme) :
    ∀ c ∈ location.render, isPlain c = true := by
  cases h with
  | @served authority path kept nonempty segments =>
    have hsegment : ∀ segment ∈ path, ∀ c ∈ segment, Url.isPlain c = true := fun segment hmem =>
      (segments segment hmem).encoded.forall_mem (by decide)
    have hpath : ∀ c ∈ renderPath path, Url.isPlain c = true := by
      intro c hc
      obtain ⟨segment, hmem, hc⟩ := List.mem_flatMap.1 hc
      rcases List.mem_cons.1 hc with rfl | hc
      · decide
      · exact hsegment segment hmem c hc
    -- Two slashes, the server and the path.
    intro c hc
    simp only [Location.render, List.cons_append, List.mem_cons, List.mem_append] at hc
    rcases hc with rfl | rfl | hc | hc
    · decide
    · decide
    · exact (Bool.and_eq_true_iff.1 (kept.isPlainInAuthority c hc)).1
    · exact hpath c hc

/-! ### URLs -/

/-- A URL with a special scheme that is not that of files, as it is kept. -/
structure IsKept (u : Url) : Prop where
  special : isSpecial u.scheme = true
  web : u.scheme ≠ fileScheme
  location : u.location.IsKept u.scheme
  query : ∀ query, u.query = some query → IsEncoded specialQuerySet query
  fragment : ∀ fragment, u.fragment = some fragment → IsEncoded fragmentSet fragment

theorem parse_eq_ok_iff {text : String} {u : Url} :
    parse text = .ok u ↔
      ∃ rest, readScheme (clean text.toList) = some (u.scheme, rest) ∧
        readLocation u.scheme (cutOff '?' (cutOff '#' rest).1).1
          ((cutOff '?' (cutOff '#' rest).1).2.isSome || (cutOff '#' rest).2.isSome) =
            .ok u.location ∧
        u.query = (cutOff '?' (cutOff '#' rest).1).2.map (encodeWith (querySetOf u.scheme)) ∧
        u.fragment = (cutOff '#' rest).2.map (encodeWith fragmentSet) := by
  unfold parse
  cases readScheme (clean text.toList) with
  | none => exact iff_of_false (fun h => nomatch h) fun ⟨_, h, _⟩ => nomatch h
  | some read =>
    obtain ⟨scheme, rest⟩ := read
    dsimp only
    rw [except_bind_eq_ok_iff]
    constructor
    · rintro ⟨location, hlocation, h⟩
      obtain rfl := Except.ok.inj h
      exact ⟨rest, rfl, hlocation, rfl, rfl⟩
    · rintro ⟨rest', hread, hlocation, hquery, hfragment⟩
      obtain ⟨hscheme, rfl⟩ := Prod.mk.inj (Option.some.inj hread)
      obtain ⟨_, location, query, fragment⟩ := u
      -- The other parts are computed, so only the location can fail.
      dsimp only at hscheme hlocation hquery hfragment
      subst hscheme hquery hfragment
      exact ⟨location, hlocation, rfl⟩

theorem isKept_of_parse {text : String} {u : Url} (hspecial : isSpecial u.scheme = true)
    (hweb : u.scheme ≠ fileScheme) (h : parse text = .ok u) :
    u.IsKept ∧ ∃ authority path, u.location = .served authority path ∧ authority.host.Special := by
  obtain ⟨rest, -, hlocation, hquery, hfragment⟩ := parse_eq_ok_iff.1 h
  obtain ⟨hkept, hhost⟩ := isKept_of_readLocation hspecial hweb hlocation
  refine ⟨⟨hspecial, hweb, hkept, ?_, ?_⟩, hhost⟩
  · intro query hsome
    rw [hquery, querySetOf, if_pos hspecial] at hsome
    obtain ⟨raw, -, rfl⟩ := Option.map_eq_some_iff.1 hsome
    exact isEncoded_encodeWith isEncodeSet_specialQuerySet raw
  · intro fragment hsome
    rw [hfragment] at hsome
    obtain ⟨raw, -, rfl⟩ := Option.map_eq_some_iff.1 hsome
    exact isEncoded_encodeWith isEncodeSet_fragmentSet raw

theorem clean_eq_self (h : ∀ c ∈ s, 0x20 < c.toNat) : clean s = s := by
  have hdrop : ∀ {l : List Char}, (∀ c ∈ l, 0x20 < c.toNat) → l.dropWhile isOuter = l := by
    intro l hl
    cases l with
    | nil => rfl
    | cons c l =>
      have hc : ¬ isOuter c = true := by
        have := hl c List.mem_cons_self
        simp only [isOuter, decide_eq_true_eq]
        omega
      exact List.dropWhile_cons_of_neg hc
  -- Neither what is dropped at the ends nor what is dropped inside is above a space.
  have hfilter : s.filter (fun c => !isBreak c) = s := by
    refine List.filter_eq_self.2 fun c hc => ?_
    have hlt := h c hc
    have hne : c ≠ '\t' ∧ c ≠ '\n' ∧ c ≠ '\r' := by
      refine ⟨?_, ?_, ?_⟩
      all_goals
        rintro rfl
        exact absurd hlt (by decide)
    simp [isBreak, hne]
  unfold clean
  rw [hdrop h, hdrop fun c hc => h c (List.mem_reverse.1 hc), List.reverse_reverse, hfilter]

/-- What holds of the listed schemes holds of each special one. -/
theorem forall_isSpecial {P : List Char → Prop}
    (h : ∀ scheme ∈ specialSchemes.map Prod.fst, P scheme) (hspecial : isSpecial scheme = true) :
    P scheme := by
  obtain ⟨entry, hentry, heq⟩ := List.any_eq_true.1 hspecial
  exact h scheme (List.mem_map.2 ⟨entry, hentry, of_decide_eq_true heq⟩)

theorem isPlain_of_isSpecial (h : isSpecial scheme = true) : ∀ c ∈ scheme, isPlain c = true :=
  List.all_eq_true.1 (forall_isSpecial (P := fun scheme => scheme.all isPlain = true) (by decide) h)

/-- A special scheme that has been written is read back. -/
theorem readScheme_append (h : isSpecial scheme = true) (rest : List Char) :
    readScheme (scheme ++ ':' :: rest) = some (scheme, rest) := by
  obtain ⟨hcolon, hlower, hhead, htail⟩ := forall_isSpecial
    (P := fun scheme => ':' ∉ scheme ∧ lower scheme = scheme ∧
      scheme.head?.any isLetter = true ∧ scheme.tail.all isSchemeChar = true) (by decide) h
  unfold readScheme
  rw [cut?_append hcolon]
  cases scheme with
  | nil => exact nomatch hhead
  | cons c cs =>
    have hletters : (isLetter c && cs.all isSchemeChar) = true :=
      Bool.and_eq_true_iff.2 ⟨hhead, htail⟩
    dsimp only
    rw [if_pos hletters, hlower]

theorem IsKept.querySetOf_eq {u : Url} (h : u.IsKept) : querySetOf u.scheme = specialQuerySet :=
  if_pos h.special

theorem IsKept.lt_toNat {u : Url} (h : u.IsKept) : ∀ c ∈ u.render, 0x20 < c.toNat := by
  have hplain : ∀ {c}, isPlain c = true → 0x20 < c.toNat := by
    intro c hc
    simp only [isPlain, Bool.and_eq_true, decide_eq_true_eq] at hc
    exact hc.1.1
  have hoptional : ∀ {sign : Char} {part : Option (List Char)}, 0x20 < sign.toNat →
      (∀ s, part = some s → ∀ c ∈ s, 0x20 < c.toNat) →
      ∀ c ∈ renderOptional sign part, 0x20 < c.toNat := by
    intro sign part hsign hpart c hc
    cases part with
    | none => exact nomatch hc
    | some s =>
      rcases List.mem_cons.1 hc with rfl | hc
      · exact hsign
      · exact hpart s rfl c hc
  -- One case for each part of the URL.
  intro c hc
  simp only [render, List.append_assoc, List.mem_append, List.cons_append, List.mem_cons] at hc
  rcases hc with hc | rfl | hc | hc | hc
  · exact hplain (isPlain_of_isSpecial h.special c hc)
  · decide
  · exact hplain (h.location.isPlain c hc)
  · exact hoptional (by decide) (fun s hs => (h.query s hs).forall_mem (by decide)) c hc
  · exact hoptional (by decide) (fun s hs => (h.fragment s hs).forall_mem (by decide)) c hc

/-- A URL that has been written is read back, with what its host is read as. -/
theorem IsKept.parse_toString_eq_map {u : Url} (h : u.IsKept) {authority : Authority}
    {path : List (List Char)} (hlocation : u.location = .served authority path) :
    parse u.toString = (Host.parseSpecial authority.host.render).map fun host =>
      { u with location := .served { authority with host := host } path } := by
  -- No part has the sign that sets off the next one, so each sign is found where it was put.
  have hmark : '?' ∉ u.location.render := fun hmem =>
    absurd (h.location.isPlain '?' hmem) (by decide)
  have hhash : '#' ∉ u.location.render ++ renderOptional '?' u.query := by
    intro hmem
    rcases List.mem_append.1 hmem with hmem | hmem
    · exact absurd (h.location.isPlain '#' hmem) (by decide)
    · cases hquery : u.query with
      | none =>
        rw [hquery] at hmem
        exact nomatch hmem
      | some query =>
        rw [hquery] at hmem
        rcases List.mem_cons.1 hmem with heq | hmem
        · exact absurd heq (by decide)
        · exact (h.query query hquery).not_mem (by decide) hmem
  have hread : readScheme (clean u.toString.toList) = some (u.scheme,
      u.location.render ++ renderOptional '?' u.query ++ renderOptional '#' u.fragment) := by
    have hrender : u.render = u.scheme ++ ':' ::
        (u.location.render ++ renderOptional '?' u.query ++ renderOptional '#' u.fragment) := by
      simp [render]
    rw [toString, String.toList_ofList, clean_eq_self h.lt_toNat, hrender,
      readScheme_append h.special]
  have hquery : u.query.map (encodeWith (querySetOf u.scheme)) = u.query := by
    rw [h.querySetOf_eq]
    cases hsome : u.query with
    | none => rfl
    | some query => exact congrArg some (h.query query hsome).encodeWith_eq_self
  have hfragment : u.fragment.map (encodeWith fragmentSet) = u.fragment := by
    cases hsome : u.fragment with
    | none => rfl
    | some fragment => exact congrArg some (h.fragment fragment hsome).encodeWith_eq_self
  have hkept := h.location
  rw [hlocation] at hkept
  unfold parse
  rw [hread]
  dsimp only
  rw [cutOff_append_renderOptional hhash u.fragment]
  dsimp only
  rw [cutOff_append_renderOptional hmark u.query]
  dsimp only
  rw [hlocation, hkept.readLocation_render h.special h.web, hquery, hfragment]
  cases Host.parseSpecial authority.host.render <;> rfl

/-- Whether a URL can be read as it is written: its host has no encoded label that is too long. -/
def isReadable (u : Url) : Bool :=
  match u.location with
  | .served authority _ => authority.host.isReadable
  | _ => true

/-- **A URL that has been written is read back**, or its host is refused because a label is too long
to be decoded. -/
theorem IsKept.parse_toString {u : Url} (h : u.IsKept)
    (hhost : ∃ authority path, u.location = .served authority path ∧ authority.host.Special) :
    parse u.toString = if u.isReadable then .ok u else .error .invalidDomain := by
  obtain ⟨authority, path, hlocation, hspecial⟩ := hhost
  rw [h.parse_toString_eq_map hlocation, hspecial.parseSpecial_render, isReadable, hlocation]
  dsimp only
  obtain ⟨scheme, location, query, fragment⟩ := u
  obtain rfl : location = _ := hlocation
  split_ifs <;> rfl

end Phrasebook.Url
