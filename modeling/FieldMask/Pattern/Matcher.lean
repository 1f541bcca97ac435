import FieldMask.Pattern.Parser

/-!
# `FieldMask.Pattern.Matcher`: testing a text against a pattern

`Pattern.test` says whether a pattern matches anywhere in a text. The matcher backtracks: a node
runs from a place in the text and hands every place it can reach, in order of preference, to a
continuation, until the continuation succeeds. Inside a look-behind it runs backwards.

`Node.run` is a recursion on the tree. A repetition also counts down: once its required rounds are
done, each further round has to move, so no more rounds can follow than there are characters.
-/

set_option autoImplicit false

namespace FieldMask.Pattern

/-- A place in the text, and what each group has matched so far as start and end places. -/
structure Place where
  position : Nat
  captures : List (Option (Nat × Nat))
  deriving DecidableEq, Repr

/-- What a node does at a place: the first success of the continuation. -/
abbrev Step := Place → (Place → Option Place) → Option Place

namespace Place

/-- What a group has matched. -/
def capture (p : Place) (index : Nat) : Option (Nat × Nat) := (p.captures[index - 1]?).join

/-- Records what a group has matched. -/
def record (p : Place) (index : Nat) (range : Nat × Nat) : Place :=
  { p with captures := p.captures.set (index - 1) (some range) }

/-- Forgets what `count` groups from `first` on have matched. -/
def forget (p : Place) (first count : Nat) : Place :=
  { p with
    captures := p.captures.mapIdx fun i range =>
      if first ≤ i + 1 ∧ i + 1 < first + count then none else range }

end Place

/-- The character that a move from `position` passes. -/
def passed? (input : Array Letter) (forward : Bool) (position : Nat) : Option Letter :=
  if forward then input[position]?
  else if position = 0 then none
  else input[position - 1]?

/-- The place one character on. -/
def Place.advance (p : Place) (forward : Bool) : Place :=
  { p with position := if forward then p.position + 1 else p.position - 1 }

/-- Passes one character that satisfies `accepts`. -/
def one (input : Array Letter) (forward : Bool) (accepts : Letter → Bool) : Step := fun p next =>
  match passed? input forward p.position with
  | some l => if accepts l then next (p.advance forward) else none
  | none => none

/-- Passes characters of the canonical forms given. -/
def literal (input : Array Letter) (forward : Bool) : List Nat → Step
  | [], p, next => next p
  | form :: rest, p, next =>
    one input forward (fun l => l.form == form) p fun q => literal input forward rest q next

/-- The place is the start of the text or, if lines count, of a line. -/
def atStart (mode : Mode) (input : Array Letter) (position : Nat) : Bool :=
  match passed? input false position with
  | none => true
  | some l => mode.multiline && isLineEnd l.char

/-- The place is the end of the text or, if lines count, of a line. -/
def atFinish (mode : Mode) (input : Array Letter) (position : Nat) : Bool :=
  match passed? input true position with
  | none => true
  | some l => mode.multiline && isLineEnd l.char

/-- The place is between a character of a word and one of none. -/
def atBorder (mode : Mode) (input : Array Letter) (position : Nat) : Bool :=
  let isWordAt (l : Option Letter) : Bool := l.any fun l => isWord mode.unicode l.char
  isWordAt (passed? input false position) != isWordAt (passed? input true position)

/-- Repeats a step: at least `least` times, at most `most` times if there is a bound, preferring
more rounds when `greedy`. Each round begins with the groups inside forgotten. A round that is not
required has to move. The number `rounds` bounds how many rounds there are. -/
def repeatStep (step : Step) (greedy : Bool) (clear : Place → Place) :
    Nat → Nat → Option Nat → Step
  | 0, least, _, p, next => if least = 0 then next p else none
  | rounds + 1, least, most, p, next =>
    if most = some 0 then next p
    else
      let again (q : Place) : Option Place :=
        if least = 0 ∧ q.position = p.position then none
        else repeatStep step greedy clear rounds (least - 1) (most.map (· - 1)) q next
      if 0 < least then step (clear p) again
      else if greedy then (step (clear p) again).or (next p)
      else (next p).or (step (clear p) again)

/-- Runs a node from a place on. Required rounds beyond the number of characters add nothing: with
that many, one of them stands still, and it can be repeated. -/
def Node.run (mode : Mode) (input : Array Letter) : Node → Bool → Step
  | .empty, _, p, next => next p
  | .char form, forward, p, next => literal input forward [form] p next
  | .any, forward, p, next =>
    one input forward (fun l => mode.dotAll || !isLineEnd l.char) p next
  | .set s, forward, p, next => one input forward (fun l => s.holds mode.unicode l) p next
  | .seq first second, forward, p, next =>
    if forward then first.run mode input forward p fun q => second.run mode input forward q next
    else second.run mode input forward p fun q => first.run mode input forward q next
  | .alt first second, forward, p, next =>
    (first.run mode input forward p next).or (second.run mode input forward p next)
  | .group index body, forward, p, next =>
    body.run mode input forward p fun q =>
      next (q.record index (min p.position q.position, max p.position q.position))
  | .repeated least most greedy firstGroup groups body, forward, p, next =>
    let needed := min least (input.size + 1)
    repeatStep (fun q continue' => body.run mode input forward q continue') greedy
      (fun q => q.forget firstGroup groups) (needed + input.size + 1) needed
      (most.map (· - (least - needed))) p next
  | .back index, forward, p, next =>
    match p.capture index with
    | none => next p
    | some (first, last) =>
      let part := (input.extract first last).toList.map Letter.form
      literal input forward (if forward then part else part.reverse) p next
  | .start, _, p, next => if atStart mode input p.position then next p else none
  | .finish, _, p, next => if atFinish mode input p.position then next p else none
  | .border negated, _, p, next =>
    if atBorder mode input p.position != negated then next p else none
  | .look ahead negated body, _, p, next =>
    match body.run mode input ahead p some with
    | some q => if negated then none else next { p with captures := q.captures }
    | none => if negated then next p else none

/-- The node of a word: its characters in any case, one after the other. -/
def wordNode (word : String) : Node :=
  .text (word.toList.map fun c => canonical false c.toNat)

/-- The pattern matches at some place of the text. -/
def test (pattern : Pattern) (t : Text) : Bool :=
  let input := ((characters pattern.mode t).map (Letter.of pattern.mode.unicode)).toArray
  (List.range (input.size + 1)).any fun position =>
    (pattern.root.run pattern.mode input true
      ⟨position, List.replicate pattern.groups none⟩ some).isSome

end FieldMask.Pattern
