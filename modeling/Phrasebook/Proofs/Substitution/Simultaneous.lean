import Phrasebook.Proofs.Entries
import Phrasebook.Proofs.Substitution

/-!
# Simultaneous substitution

Arguments are put into a text one after the other, each into what the earlier ones have left.  In a
template of plain characters and markers this is the same as writing the template once with all
values in their places, if neither names nor values have braces.

* `Template.fill` writes a template with the values of arguments.
* `Template.substitute_eq_fill`: substitution does the same, in whatever order the arguments stand.
-/

namespace Phrasebook

/-- What is put in for the marker of a name: the value of the name, or the marker as it stands if
there is none. -/
def Args.filling (args : Args) (x : List Char) : List Char :=
  match args.get? (String.ofList x) with
  | some value => value.toList
  | none => placeholder x

theorem Args.filling_eq_getD (args : Args) (x : List Char) :
    args.filling x = (valueOf args.toList x).getD (placeholder x) := by
  have hget : args.get? (String.ofList x) = Entries.find? (String.ofList x) args.toList := rfl
  unfold filling valueOf
  rw [hget]
  cases Entries.find? (String.ofList x) args.toList <;> rfl

/-- The order of arguments does not matter for what is put in for a marker. -/
theorem Args.filling_eq_of_perm {args args' : Args} (h : args'.toList.Perm args.toList) :
    args'.filling = args.filling := by
  funext x
  have hfind := Entries.find?_eq_of_perm args.nodup_toList h (String.ofList x)
  rw [filling_eq_getD, filling_eq_getD, valueOf, valueOf, hfind]

namespace Template

/-- The template with all values put in at once. -/
def fill (T : Template) (args : Args) : List Char :=
  T.render args.filling

/-- **Substitution in a template is simultaneous.**  The text consists of plain characters and
markers of names without braces, and neither names nor values of the arguments have braces.  Then
all plain characters stay, and each marker becomes the value of its name, or stays if the name has
none; the order of the arguments does not matter. -/
theorem substitute_eq_fill (text : String) (T : Template) (hT : T.Over BraceFree)
    (htext : text.toList = T.render placeholder) (args : Args)
    (hargs : ∀ pair ∈ args.toList, BraceFree pair.1.toList ∧ BraceFree pair.2.toList) :
    (substitute text args).toList = T.fill args ∧
      ∀ args' : Args, args'.toList.Perm args.toList →
        substitute text args' = substitute text args := by
  have hfill : ∀ args' : Args, args'.toList.Perm args.toList →
      (substitute text args').toList = T.fill args := by
    intro args' hperm
    have hargs' : ∀ pair ∈ args'.toList, BraceFree pair.1.toList ∧ BraceFree pair.2.toList :=
      fun pair hpair => hargs pair (hperm.mem_iff.1 hpair)
    rw [toList_substitute, htext, substituteAll_written hargs' hT, fill,
      ← Args.filling_eq_of_perm hperm]
    exact congrArg (T.render ·) (funext fun x => (args'.filling_eq_getD x).symm)
  have hself := hfill args (List.Perm.refl _)
  refine ⟨hself, fun args' hperm => ?_⟩
  rw [← String.toList_inj, hfill args' hperm, hself]

/-- A text with markers side by side, one of them of the empty name and one of an unknown name, and
arguments of which one is empty. -/
theorem substitute_eq_fill_bill :
    (substitute "{n}{} for {who}{tip}" (Args.ofTexts [("tip", ""), ("", "€"), ("n", "5")])).toList =
        "5€ for {who}".toList ∧
      substitute "{n}{} for {who}{tip}" (Args.ofTexts [("n", "5"), ("tip", ""), ("", "€")]) =
        substitute "{n}{} for {who}{tip}" (Args.ofTexts [("tip", ""), ("", "€"), ("n", "5")]) := by
  have hmain := substitute_eq_fill "{n}{} for {who}{tip}"
    (.marker ['n'] :: .marker [] :: ofLiteral " for ".toList ++
      [.marker "who".toList, .marker "tip".toList])
    (by decide) (by decide) (Args.ofTexts [("tip", ""), ("", "€"), ("n", "5")]) (by decide +kernel)
  exact ⟨hmain.1.trans (by decide +kernel), hmain.2 _ (by decide +kernel)⟩

end Template

end Phrasebook
