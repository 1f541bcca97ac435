import FieldMask.Pattern.Syntax
import FieldMask.Unicode.Blank
import FieldMask.Unicode.Folding
import FieldMask.Unicode.Uppercase

/-!
# `FieldMask.Pattern.Letter`: characters up to case

A pattern compares characters by their `canonical` form. In Unicode mode that is the simple case
folding. Otherwise it is the upper case, where a character stays as it is if its upper case is
more than one character, or is an ASCII character while it is none itself.

The matcher sees a character as a `Letter`: the character, its canonical form and every character of
that form. A class holds a letter if it lists one of these characters. What ends a line and what is
part of a word is asked of the character itself.
-/

set_option autoImplicit false

namespace FieldMask.Pattern

open FieldMask.Unicode

/-- The form in which characters are compared. -/
def canonical (unicode : Bool) (c : Nat) : Nat :=
  if unicode then fold c
  else
    match toUpper c with
    | [u] => if 0x80 ≤ c ∧ u < 0x80 then c else u
    | _ => c

/-- The characters whose canonical form is `c`, where `c` is a canonical form itself. -/
def variants (unicode : Bool) (c : Nat) : List Nat :=
  c :: ((if unicode then foldingTable else uppercaseTable).sources c).filter
    fun d => canonical unicode d == c

/-- The long s and the Kelvin sign, which fold to ASCII letters. -/
def foldsToAscii (c : Nat) : Bool := c == 0x17F || c == 0x212A

/-- The character is part of a word: an ASCII letter or digit, an underscore or, in Unicode mode,
a character that folds to one of them. -/
def isWord (unicode : Bool) (c : Nat) : Bool :=
  (0x30 ≤ c && c ≤ 0x39) || (0x41 ≤ c && c ≤ 0x5A) || c == 0x5F || (0x61 ≤ c && c ≤ 0x7A) ||
    (unicode && foldsToAscii c)

/-- The character is an ASCII digit. -/
def isDigit (c : Nat) : Bool := 0x30 ≤ c && c ≤ 0x39

/-- The character is white space. -/
def isSpace (c : Nat) : Bool := c < 0x10000 && Unicode.isBlank (UInt16.ofNat c)

/-- The character ends a line. -/
def isLineEnd (c : Nat) : Bool := c == 0x0A || c == 0x0D || c == 0x2028 || c == 0x2029

/-- The item lists the character itself. -/
def ClassItem.contains (unicode : Bool) (c : Nat) : ClassItem → Bool
  | .range first last => first ≤ c && c ≤ last
  | .digit => isDigit c
  | .space => isSpace c
  | .word => isWord unicode c
  | .property group => group.contains c

/-- A character as the matcher sees it. -/
structure Letter where
  char : Nat
  /-- The canonical form. -/
  form : Nat
  /-- The characters of that form. -/
  variants : List Nat
  deriving DecidableEq, Repr

/-- The letter of a character. -/
def Letter.of (unicode : Bool) (c : Nat) : Letter :=
  let form := canonical unicode c
  ⟨c, form, Pattern.variants unicode form⟩

namespace ClassSet

/-- The set holds the letter. -/
def holds (unicode : Bool) (l : Letter) : ClassSet → Bool
  | .empty | .text _ => false
  | .item negated part => l.variants.any fun d => part.contains unicode d != negated
  | .union first second => first.holds unicode l || second.holds unicode l
  | .intersection first second => first.holds unicode l && second.holds unicode l
  | .difference first second => first.holds unicode l && !second.holds unicode l
  | .complement s => !s.holds unicode l

/-- The texts of the set. -/
def texts : ClassSet → List (List Nat)
  | .empty | .item _ _ | .complement _ => []
  | .text forms => [forms]
  | .union first second => first.texts ++ second.texts
  | .intersection first second => first.texts.filter second.texts.contains
  | .difference first second => first.texts.filter fun forms => !second.texts.contains forms

/-- The set can hold texts by the way it is written, whether or not any are left in it. -/
def mayHoldTexts : ClassSet → Bool
  | .empty | .item _ _ | .complement _ => false
  | .text _ => true
  | .union first second => first.mayHoldTexts || second.mayHoldTexts
  | .intersection first second => first.mayHoldTexts && second.mayHoldTexts
  | .difference first _ => first.mayHoldTexts

/-- The node of the set: its texts, the longest first, then its characters, and the empty text last
if the set holds it. -/
def node (s : ClassSet) : Node :=
  let longest := (s.texts.filter (!·.isEmpty)).mergeSort fun a b => b.length ≤ a.length
  longest.foldr (fun forms node => .alt (.text forms) node)
    (if s.texts.contains [] then .alt (.set s) .empty else .set s)

end ClassSet

end FieldMask.Pattern
