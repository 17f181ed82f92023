import Phrasebook.Proofs.Url.Address
import Phrasebook.Proofs.Url.Domain.Name
import Phrasebook.Proofs.Url.Percent

/-!
# Reading hosts back

The host of a URL with a special scheme is kept in the spelling in which it is written, so what is
written is read as the same host: `Host.Special.parseSpecial_render`, for the hosts that
`Host.special_of_parseSpecial` says there are.  Only a domain name with a label that is too long to
be decoded is refused (`Host.isReadable`).

* A domain name in ASCII stands for itself (`Domain.toAscii?_of_eq_some`), and so do numbers with
  dots between them (`Domain.toAscii?_joinWith`).
* `Host.Special.isHostChar` says which characters a host is written with.
-/

namespace Phrasebook.Url

open Phrasebook.Text

/-! ### Hosts -/

namespace Host

/-- The hosts that a URL with a special scheme can have. -/
inductive Special : Host → Prop
  /-- A name in ASCII that is no address. -/
  | domain {name : List Char} (ascii : ∃ s, Domain.toAscii? s = some name)
      (allowed : name.any isForbiddenInDomain = false) (nonempty : name.isEmpty = false)
      (named : endsInNumber name = false) : Special (.domain name)
  /-- An address of four bytes. -/
  | ipv4 {address : ℕ} (bound : address < 256 ^ 4) : Special (.ipv4 address)
  /-- An address of eight pieces. -/
  | ipv6 {pieces : List ℕ} (address : IsAddress pieces) : Special (.ipv6 pieces)

/-- Whether a host can be read as it is written: it has no encoded label that is too long. -/
def isReadable : Host → Bool
  | .domain name => Domain.isReadable name
  | _ => true

theorem special_of_parseSpecial {s : List Char} {host : Host} (h : parseSpecial s = .ok host) :
    host.Special := by
  unfold parseSpecial at h
  split at h
  · -- Within brackets there is an address or nothing; otherwise the name in ASCII decides.
    unfold parseBracketed at h
    split at h
    · split at h
      · rename_i hread
        obtain rfl := Except.ok.inj h
        exact .ipv6 (isAddress_of_readIpv6? hread)
      · exact nomatch h
    · exact nomatch h
  · split at h
    · exact nomatch h
    · rename_i name hascii
      split_ifs at h with hforbidden hempty hnumber
      · split at h
        · rename_i hread
          obtain rfl := Except.ok.inj h
          exact .ipv4 (lt_of_readIpv4? hread)
        · exact nomatch h
      · obtain rfl := Except.ok.inj h
        exact .domain ⟨_, hascii⟩ (Bool.eq_false_iff.2 hforbidden) (Bool.eq_false_iff.2 hempty)
          (Bool.eq_false_iff.2 hnumber)

theorem not_mem_of_allowed {name : List Char} (h : name.any isForbiddenInDomain = false) {c : Char}
    (hc : isForbiddenInDomain c = true) : c ∉ name := fun hmem =>
  List.any_eq_false.1 h c hmem hc

section

variable {s name : List Char}

/-- A text without brackets and percent signs is read as a domain name. -/
theorem parseSpecial_eq (hbracket : '[' ∉ s) (hpercent : '%' ∉ s) :
    parseSpecial s = match Domain.toAscii? s with
      | none => .error .invalidDomain
      | some name =>
        if name.any isForbiddenInDomain then .error .invalidDomain
        else if name.isEmpty then .error .emptyHost
        else if endsInNumber name then (readIpv4? name).elim (.error .invalidIpv4) (.ok ∘ .ipv4)
        else .ok (.domain name) := by
  unfold parseSpecial
  split
  · exact absurd List.mem_cons_self hbracket
  · rw [decodeBytes_eq_encode hpercent, Utf8.decodeLossy_encode]
    cases Domain.toAscii? s with
    | none => rfl
    | some name =>
      dsimp only
      cases readIpv4? name <;> rfl

theorem parseSpecial_of_toAscii? (hbracket : '[' ∉ s) (hpercent : '%' ∉ s)
    (hascii : Domain.toAscii? s = some name) (hallowed : name.any isForbiddenInDomain = false)
    (hempty : name.isEmpty = false) :
    parseSpecial s =
      if endsInNumber name then (readIpv4? name).elim (.error .invalidIpv4) (.ok ∘ .ipv4)
      else .ok (.domain name) := by
  rw [parseSpecial_eq hbracket hpercent, hascii]
  dsimp only
  rw [hallowed, if_neg Bool.false_ne_true, hempty, if_neg Bool.false_ne_true]

end

theorem toAscii?_renderIpv4 (address : ℕ) :
    Domain.toAscii? (renderIpv4 address) = some (renderIpv4 address) := by
  rw [renderIpv4_eq]
  refine Domain.toAscii?_joinWith (by simp [addressBytes]) fun label hlabel c hc => ?_
  obtain ⟨n, -, rfl⟩ := List.mem_map.1 hlabel
  exact isDigit_of_mem_decimal hc

theorem allowed_renderIpv4 (address : ℕ) :
    (renderIpv4 address).any isForbiddenInDomain = false := by
  have hchars := forall_mem_renderIpv4 (P := fun c => isForbiddenInDomain c = false) (by decide)
    (by decide) address
  exact List.any_eq_false.2 fun c hc => Bool.eq_false_iff.1 (hchars c hc)

/-- **A host that has been written is read back**, or refused if it is a name with a label that is
too long to be decoded. -/
theorem Special.parseSpecial_render {host : Host} (h : host.Special) :
    parseSpecial host.render = if host.isReadable then .ok host else .error .invalidDomain := by
  cases h with
  | @domain name ascii allowed nonempty named =>
    obtain ⟨s, hs⟩ := ascii
    have hbracket : '[' ∉ name := not_mem_of_allowed allowed (by decide)
    have hpercent : '%' ∉ name := not_mem_of_allowed allowed (by decide)
    -- The name has come from one in any spelling, and is read again if its labels are short enough.
    have hagain := Domain.toAscii?_of_eq_some hs
    show parseSpecial name = if Domain.isReadable name then _ else _
    split_ifs at hagain ⊢ with hreadable
    · rw [parseSpecial_of_toAscii? hbracket hpercent hagain allowed nonempty, named,
        if_neg Bool.false_ne_true]
    · rw [parseSpecial_eq hbracket hpercent, hagain]
  | @ipv4 address bound =>
    have hallowed := allowed_renderIpv4 address
    have hempty : (renderIpv4 address).isEmpty = false := by
      simpa using renderIpv4_ne_nil address
    show parseSpecial (renderIpv4 address) = .ok _
    rw [parseSpecial_of_toAscii? (not_mem_of_allowed hallowed (by decide))
      (not_mem_of_allowed hallowed (by decide)) (toAscii?_renderIpv4 address) hallowed hempty,
      if_pos (endsInNumber_renderIpv4 address), readIpv4?_renderIpv4 bound]
    rfl
  | @ipv6 pieces address =>
    show parseBracketed (renderIpv6 pieces ++ [']']) = .ok _
    unfold parseBracketed
    rw [List.reverse_append, List.reverse_singleton, List.singleton_append]
    simp only [List.reverse_reverse, readIpv6?_renderIpv6 address]

/-- Whether a character can stand in a host with a special scheme, as it is written. -/
def isHostChar (c : Char) : Bool :=
  !isForbiddenInDomain c || "[:]".toList.contains c

theorem Special.isHostChar {host : Host} (h : host.Special) :
    ∀ c ∈ host.render, isHostChar c = true := by
  have hname : ∀ {name : List Char}, name.any isForbiddenInDomain = false →
      ∀ c ∈ name, Host.isHostChar c = true := by
    intro name hallowed c hc
    have hnot := List.any_eq_false.1 hallowed c hc
    simp [Host.isHostChar, hnot]
  -- All characters that a name may have can stand in a host, and so can those of addresses.
  cases h with
  | domain ascii allowed nonempty named => exact hname allowed
  | ipv4 bound => exact hname (allowed_renderIpv4 _)
  | @ipv6 pieces address =>
    intro c hc
    simp only [render, List.cons_append, List.mem_cons, List.mem_append, List.not_mem_nil,
      or_false] at hc
    rcases hc with rfl | hc | rfl
    · decide
    · exact forall_mem_renderIpv6 (P := fun c => Host.isHostChar c = true) (by decide) (by decide)
        pieces c hc
    · decide

theorem Special.render_ne_nil {host : Host} (h : host.Special) : host.render ≠ [] := by
  cases h with
  | @domain name ascii allowed nonempty named =>
    show name ≠ []
    simpa using nonempty
  | ipv4 bound => exact renderIpv4_ne_nil _
  | ipv6 address => exact List.cons_ne_nil _ _

end Host

end Phrasebook.Url
