import FieldMask.Pattern.Matcher
import FieldMask.Proofs.Pattern.Letter

/-!
# `FieldMask.Proofs.Pattern.Matcher`: what a pattern can tell apart

Two inputs whose letters are seen alike, one by one, are matched alike. Every step of the matcher
looks at the input through what is seen of a letter (`one_congr`), at its length, or at the forms of
a part of it, so a node does the same in both (`Node.run_congr`, by induction on the tree).

`test_eq_of_canonical_eq` is the statement about texts: a pattern cannot tell characters of one
canonical form apart, whatever it is made of.
-/

set_option autoImplicit false

namespace FieldMask.Pattern

/-- The letters of two inputs are seen alike, one by one. In particular the inputs have the same
length. -/
def SeenAlike (unicode : Bool) (a b : Array Letter) : Prop :=
  a.map (Letter.seen unicode) = b.map (Letter.seen unicode)

/-! ### One letter -/

section

variable {unicode : Bool} {l m : Letter}

/-- Letters that are seen alike have one canonical form. -/
theorem form_eq_of_seen (h : l.seen unicode = m.seen unicode) : l.form = m.form :=
  congrArg Prod.fst h

/-- Letters that are seen alike have the same variants. -/
theorem variants_eq_of_seen (h : l.seen unicode = m.seen unicode) : l.variants = m.variants :=
  congrArg (fun seen => seen.2.1) h

/-- Letters that are seen alike are both part of a word, or both not. -/
theorem isWord_eq_of_seen (h : l.seen unicode = m.seen unicode) :
    isWord unicode l.char = isWord unicode m.char :=
  congrArg (fun seen => seen.2.2.1) h

/-- Letters that are seen alike both end a line, or both do not. -/
theorem isLineEnd_eq_of_seen (h : l.seen unicode = m.seen unicode) :
    isLineEnd l.char = isLineEnd m.char :=
  congrArg (fun seen => seen.2.2.2) h

/-- A class holds both of two letters that are seen alike, or neither. The induction is on what the
class is made of; only an item looks at the letter, through its variants. -/
theorem ClassSet.holds_congr (h : l.seen unicode = m.seen unicode) (s : ClassSet) :
    s.holds unicode l = s.holds unicode m := by
  induction s with
  | empty | text => rfl
  | item negated part => simp only [holds, variants_eq_of_seen h]
  | union first second ih ih' => simp only [holds, ih, ih']
  | intersection first second ih ih' => simp only [holds, ih, ih']
  | difference first second ih ih' => simp only [holds, ih, ih']
  | complement s ih => simp only [holds, ih]

end

/-! ### Steps through inputs that are seen alike -/

section

variable {mode : Mode} {a b : Array Letter} (h : SeenAlike mode.unicode a b)

include h

/-- At one place, both inputs have letters that are seen alike, or neither has any. A move backwards
passes the letter before the place. -/
theorem passed?_congr (forward : Bool) (position : Nat) :
    (passed? a forward position).map (Letter.seen mode.unicode)
      = (passed? b forward position).map (Letter.seen mode.unicode) := by
  have hget : ∀ i : Nat, a[i]?.map (Letter.seen mode.unicode)
      = b[i]?.map (Letter.seen mode.unicode) := by
    intro i
    rw [← Array.getElem?_map, ← Array.getElem?_map]
    exact congrArg (fun seen => seen[i]?) h
  unfold passed?
  split
  · exact hget position
  · split
    · rfl
    · exact hget (position - 1)

/-- What is decided by what is seen of the letter at a place is decided alike. This is the case
split that the steps below have in common. -/
theorem passed?_cases (forward : Bool) (position : Nat) :
    (passed? a forward position = none ∧ passed? b forward position = none) ∨
      ∃ l m, passed? a forward position = some l ∧ passed? b forward position = some m ∧
        l.seen mode.unicode = m.seen mode.unicode := by
  have hseen := passed?_congr h forward position
  cases ha : passed? a forward position with
  | none =>
      rw [ha] at hseen
      exact .inl ⟨rfl, Option.map_eq_none_iff.mp hseen.symm⟩
  | some l =>
      rw [ha] at hseen
      obtain ⟨m, hm, hseen⟩ := Option.map_eq_some_iff.mp hseen.symm
      exact .inr ⟨l, m, rfl, hm, hseen.symm⟩

/-- A test of one letter goes alike if it depends on what is seen of the letter. The continuation is
the same on both sides, since it is only told the next place. -/
theorem one_congr (forward : Bool) {accepts : Letter → Bool}
    (haccepts : ∀ l m, l.seen mode.unicode = m.seen mode.unicode → accepts l = accepts m) :
    one a forward accepts = one b forward accepts := by
  funext p next
  unfold one
  obtain ⟨ha, hb⟩ | ⟨l, m, ha, hb, hseen⟩ := passed?_cases h forward p.position
  · rw [ha, hb]
  · rw [ha, hb]
    simp only [haccepts l m hseen]

/-- A sequence of canonical forms is passed alike in both inputs, form by form. -/
theorem literal_congr (forward : Bool) (forms : List Nat) :
    literal a forward forms = literal b forward forms := by
  induction forms with
  | nil => rfl
  | cons form rest ih =>
      funext p next
      rw [literal, literal, ih, one_congr h forward]
      intro l m hseen
      rw [form_eq_of_seen hseen]

/-- A place is the start of a text or line in both inputs, or in neither. In multiline mode this
asks whether the letter before it ends a line. -/
theorem atStart_congr (position : Nat) :
    atStart mode a position = atStart mode b position := by
  unfold atStart
  obtain ⟨ha, hb⟩ | ⟨l, m, ha, hb, hseen⟩ := passed?_cases h false position
  · rw [ha, hb]
  · rw [ha, hb]
    simp only [isLineEnd_eq_of_seen hseen]

/-- A place is the end of a text or line in both inputs, or in neither, by the letter after it. -/
theorem atFinish_congr (position : Nat) :
    atFinish mode a position = atFinish mode b position := by
  unfold atFinish
  obtain ⟨ha, hb⟩ | ⟨l, m, ha, hb, hseen⟩ := passed?_cases h true position
  · rw [ha, hb]
  · rw [ha, hb]
    simp only [isLineEnd_eq_of_seen hseen]

/-- A place is at the border of a word in both inputs, or in neither, by the letters on its two
sides. -/
theorem atBorder_congr (position : Nat) :
    atBorder mode a position = atBorder mode b position := by
  have hword : ∀ forward,
      ((passed? a forward position).any fun l => isWord mode.unicode l.char)
        = (passed? b forward position).any fun l => isWord mode.unicode l.char := by
    intro forward
    obtain ⟨ha, hb⟩ | ⟨l, m, ha, hb, hseen⟩ := passed?_cases h forward position
    · rw [ha, hb]
    · rw [ha, hb]
      exact isWord_eq_of_seen hseen
  unfold atBorder
  simp only [hword]

/-- Parts of the inputs between the same places have the same forms. A back-reference looks for the
forms of what its group has matched. -/
theorem forms_extract_congr (first last : Nat) :
    (a.extract first last).toList.map Letter.form
      = (b.extract first last).toList.map Letter.form := by
  have hforms : a.toList.map Letter.form = b.toList.map Letter.form := by
    have hlists := congrArg (fun seen => seen.toList.map Prod.fst) h
    simpa [Letter.seen, Function.comp_def] using hlists
  rw [Array.toList_extract, Array.toList_extract, List.extract_eq_take_drop,
    List.extract_eq_take_drop, List.map_take, List.map_drop, hforms, ← List.map_drop,
    ← List.map_take]

/-- A node runs alike through inputs that are seen alike: from the same place and with the same
continuation it comes to the same result. The induction is on the tree, with one case for each
constructor; a repetition also needs that the inputs have the same length. -/
theorem Node.run_congr (node : Node) : node.run mode a = node.run mode b := by
  have hsize : a.size = b.size := by
    have hsizes := congrArg Array.size h
    rwa [Array.size_map, Array.size_map] at hsizes
  -- Every case but a letter, a back-reference and the three tests of a place only hands on to its
  -- parts.
  induction node with
  | empty => rfl
  | char form =>
      funext forward p next
      simp only [run, literal_congr h]
  | any =>
      funext forward p next
      rw [run, run, one_congr h]
      intro l m hseen
      rw [isLineEnd_eq_of_seen hseen]
  | set s =>
      funext forward p next
      rw [run, run, one_congr h]
      intro l m hseen
      exact s.holds_congr hseen
  | seq first second ih ih' =>
      funext forward p next
      simp only [run, ih, ih']
  | alt first second ih ih' =>
      funext forward p next
      simp only [run, ih, ih']
  | group index body ih =>
      funext forward p next
      simp only [run, ih]
  | repeated least most greedy firstGroup groups body ih =>
      funext forward p next
      simp only [run, ih, hsize]
  | back index =>
      funext forward p next
      simp only [run, forms_extract_congr h, literal_congr h]
  | start =>
      funext forward p next
      simp only [run, atStart_congr h]
  | finish =>
      funext forward p next
      simp only [run, atFinish_congr h]
  | border negated =>
      funext forward p next
      simp only [run, atBorder_congr h]
  | look ahead negated body ih =>
      funext forward p next
      simp only [run, ih]

end

/-- Characters with the same forms, one by one, are seen alike, one by one. -/
theorem seen_eq_of_canonical_eq {unicode : Bool} {cs ds : List Nat}
    (h : cs.map (canonical unicode) = ds.map (canonical unicode)) :
    cs.map (fun c => (Letter.of unicode c).seen unicode)
      = ds.map fun d => (Letter.of unicode d).seen unicode := by
  induction cs generalizing ds with
  | nil => rw [List.map_eq_nil_iff.mp h.symm]
  | cons c cs ih =>
      obtain ⟨d, ds, rfl, hform, hrest⟩ := List.map_eq_cons_iff.mp h.symm
      rw [List.map_cons, List.map_cons, Letter.seen_of_canonical_eq hform.symm, ih hrest.symm]

/-- A pattern cannot tell characters of one canonical form apart: it matches in both of two texts
whose characters have the same forms, or in neither. -/
theorem test_eq_of_canonical_eq (pattern : Pattern) {t u : Text}
    (h : (characters pattern.mode t).map (canonical pattern.mode.unicode)
      = (characters pattern.mode u).map (canonical pattern.mode.unicode)) :
    pattern.test t = pattern.test u := by
  have halike : SeenAlike pattern.mode.unicode
      ((characters pattern.mode t).map (Letter.of pattern.mode.unicode)).toArray
      ((characters pattern.mode u).map (Letter.of pattern.mode.unicode)).toArray := by
    simpa [SeenAlike, Function.comp_def] using seen_eq_of_canonical_eq h
  have hlength := congrArg List.length h
  rw [List.length_map, List.length_map] at hlength
  unfold test
  simp only [Node.run_congr halike, List.size_toArray, List.length_map, hlength]

end FieldMask.Pattern
