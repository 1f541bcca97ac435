import FieldMask.Proofs.Json.Spelling

/-!
# `FieldMask.Proofs.Json.RoundTrip`: what is printed is read back

`spells_print` says that a well-formed tree is printed as one of its spellings, the one without
white space. With `parse_of_spells` this gives the round trip, `parse_print`: no text of a string
and no spelling of a number is lost, whatever it holds. Masking is between reading and printing, and
`parse_print_mapVisits` says that the round trip survives it.
-/

set_option autoImplicit false

namespace FieldMask.Json

/-- A string is printed as one of its spellings, whatever units it holds, so also with half of a
surrogate pair in it. -/
theorem spells_printString (t : Text) : Spells (.string t) (printString t) :=
  .string (spellsUnits_printUnits t)

mutual

/-- A well-formed tree is printed as one of its spellings, by induction on the tree. That it is well
formed is needed for its numbers. -/
theorem spells_print : ∀ j : Json, j.WellFormed → Spells j j.print
  | .null, _ => .word (by decide)
  | .bool true, _ => .word (by decide)
  | .bool false, _ => .word (by decide)
  | .number _, h => .number h
  | .string t, _ => spells_printString t
  | .array [], _ => .array (w := []) isSpaces_nil .nil
  | .array (j :: rest), h =>
      .array (w := []) isSpaces_nil (spellsItems_print (j :: rest) (by simp) h .none)
  | .object [], _ => .object (w := []) isSpaces_nil .nil
  | .object (m :: rest), h =>
      .object (w := []) isSpaces_nil (spellsMembers_print (m :: rest) (by simp) h.2 .none)

/-- Well-formed items are printed as one of their spellings, with the separator that stands before
the first of them. -/
theorem spellsItems_print :
    ∀ (items : List Json) {first : Bool} {sep : Text}, items ≠ [] → WellFormedItems items →
      Separator first sep → SpellsItems first items (sep ++ printItems items)
  | [], _, _, hne, _, _ => absurd rfl hne
  | [j], first, sep, _, h, hsep => by
      have hj := spells_print j h.1
      have hspells := SpellsItems.cons (w := []) hsep hj isSpaces_nil .nil
      rw [printItems]
      simpa using hspells
  | j :: k :: rest, first, sep, _, h, hsep => by
      have hj := spells_print j h.1
      have hrest := spellsItems_print (k :: rest) (by simp) h.2 (.comma (w := []) isSpaces_nil)
      have hspells := SpellsItems.cons (w := []) hsep hj isSpaces_nil hrest
      rw [printItems]
      simpa using hspells

/-- Well-formed members are printed as one of their spellings, in the same way. -/
theorem spellsMembers_print :
    ∀ (members : List (Text × Json)) {first : Bool} {sep : Text}, members ≠ [] →
      WellFormedMembers members → Separator first sep →
      SpellsMembers first members (sep ++ printMembers members)
  | [], _, _, hne, _, _ => absurd rfl hne
  | [(name, j)], first, sep, _, h, hsep => by
      have hj := spells_print j h.1
      have hname := spellsUnits_printUnits name
      have hspells : SpellsMembers first [(name, j)] (sep ++
          (0x22 :: (printUnits name ++ [0x22]) ++ ([0x3A] ++ ([] ++ (j.print ++ []) ++ [])))) :=
        .cons hsep hname isSpaces_nil isSpaces_nil hj isSpaces_nil .nil
      rw [printMembers]
      simpa [printString] using hspells
  | (name, j) :: m :: rest, first, sep, _, h, hsep => by
      have hj := spells_print j h.1
      have hname := spellsUnits_printUnits name
      have hrest := spellsMembers_print (m :: rest) (by simp) h.2 (.comma (w := []) isSpaces_nil)
      have hspells : SpellsMembers first ((name, j) :: m :: rest) (sep ++
          (0x22 :: (printUnits name ++ [0x22]) ++
            ([0x3A] ++ ([] ++ (j.print ++ []) ++ ([0x2C] ++ printMembers (m :: rest)))))) :=
        .cons hsep hname isSpaces_nil isSpaces_nil hj isSpaces_nil hrest
      rw [printMembers]
      simpa [printString] using hspells

end

/-- What is printed for a well-formed tree is read as that tree, by either rule for repeated names,
since no name of an ordered record is repeated. -/
theorem parse_print (repeats : Repeats) {j : Json} (h : j.WellFormed) :
    parse repeats j.print = .ok j := by
  have hread : parse repeats ([] ++ (j.print ++ [])) = .ok j :=
    parse_of_spells (settle_of_wellFormed j h) (spells_print j h) isSpaces_nil isSpaces_nil
  simpa using hread

/-- A tree that was read can have its string members rewritten and be printed: what is read of that
is the rewritten tree. So whatever a strategy makes of a value, the document around it stays one. -/
theorem parse_print_mapVisits (g : Visit → Text) {repeats : Repeats} {t : Text} {j : Json}
    (h : parse repeats t = .ok j) : parse repeats (j.mapVisits g).print = .ok (j.mapVisits g) :=
  parse_print repeats (wellFormed_mapVisits g j (wellFormed_of_parse h))

end FieldMask.Json
