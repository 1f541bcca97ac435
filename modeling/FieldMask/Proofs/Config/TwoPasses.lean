import FieldMask.Proofs.Config.Comments

/-!
# `FieldMask.Proofs.Config.TwoPasses`: one scan for two passes

`Config.strip` takes out comments and trailing commas in one scan, of any text. Here it is compared
with two passes that know nothing of each other. `dropComments` deletes what stands outside strings
between two slashes and the line end. `dropCommas` then deletes each comma outside strings after
which white space and a closing bracket follow. `strip_eq_two_passes` says that the scan gives the
same text.

All of them take a text piece by piece: a string, a comment or a single unit is in front, and the
rest is shorter. `piece_induction` is the induction along these pieces.

The second pass looks ahead over white space, and the scan holds a comma back instead. What becomes
of a comma that is held back, `settled`, is what the second pass finds when it looks ahead
(`stripFrom_plain_eq`). The first pass leaves the strings of a text as they are, closed or not, so
the second one finds the same strings again (`afterQuote_closed`, `afterQuote_unclosed`).

`scan` is the scan as it is done in one buffer. It writes a comma at once, remembers its place, and
shortens the buffer when a closing bracket comes. It gives the same text again (`scan_plain_eq`).
-/

set_option autoImplicit false

namespace FieldMask.Config

/-! ### Strings -/

/-- What follows an opening quote up to the closing one, and that one. It is the only place where
such a text can be cut, since the first quote that is not behind a backslash ends it. -/
inductive Closed : Text → Prop where
  | quote : Closed [0x22]
  /-- After a backslash any unit belongs to the string. -/
  | escape {v : CodeUnit} {s : Text} (h : Closed s) : Closed (0x5C :: v :: s)
  | unit {u : CodeUnit} {s : Text} (hbackslash : u ≠ 0x5C) (hquote : u ≠ 0x22) (h : Closed s) :
      Closed (u :: s)

/-- What follows an opening quote that has no closing one. It goes on to the end of the text, which
may come right after a backslash. -/
inductive Unclosed : Text → Prop where
  | nil : Unclosed []
  /-- A backslash at the end of the text. -/
  | backslash : Unclosed [0x5C]
  | escape {v : CodeUnit} {s : Text} (h : Unclosed s) : Unclosed (0x5C :: v :: s)
  | unit {u : CodeUnit} {s : Text} (hbackslash : u ≠ 0x5C) (hquote : u ≠ 0x22) (h : Unclosed s) :
      Unclosed (u :: s)

/-- The rest of a string after its opening quote, and what stands behind the string. The function
goes unit by unit, two at a time after a backslash; `Closed` and `Unclosed` say what it finds. -/
def afterQuote : Text → Text × Text
  | [] => ([], [])
  | [u] => ([u], [])
  | u :: v :: t =>
    if u = 0x5C then (u :: v :: (afterQuote t).1, (afterQuote t).2)
    else if u = 0x22 then ([u], v :: t)
    else (u :: (afterQuote (v :: t)).1, (afterQuote (v :: t)).2)

/-- A unit of its own belongs to the string, and the search goes on. It is stated for any rest, so
the two clauses of the definition for short texts need no case of their own. -/
theorem afterQuote_unit {u : CodeUnit} (hbackslash : u ≠ 0x5C) (hquote : u ≠ 0x22) (t : Text) :
    afterQuote (u :: t) = (u :: (afterQuote t).1, (afterQuote t).2) := by
  cases t with
  | nil => rfl
  | cons v t => rw [afterQuote, if_neg hbackslash, if_neg hquote]

/-- A backslash takes the unit behind it along, be it a quote or another backslash. -/
theorem afterQuote_escape (v : CodeUnit) (t : Text) :
    afterQuote (0x5C :: v :: t) = (0x5C :: v :: (afterQuote t).1, (afterQuote t).2) := by
  rw [afterQuote, if_pos rfl]

/-- A closed string is found, whatever stands behind it. The induction is on the string, so nothing
is said of what comes next. -/
theorem afterQuote_closed {s : Text} (h : Closed s) (t : Text) : afterQuote (s ++ t) = (s, t) := by
  induction h with
  | quote =>
      cases t with
      | nil => rfl
      | cons v t => rfl
  | escape _ ih => rw [List.cons_append, List.cons_append, afterQuote_escape, ih]
  | unit hbackslash hquote _ ih => rw [List.cons_append, afterQuote_unit hbackslash hquote, ih]

/-- A string that is not closed takes the whole text, and nothing stands behind it. -/
theorem afterQuote_unclosed {s : Text} (h : Unclosed s) : afterQuote s = (s, []) := by
  induction h with
  | nil => rfl
  | backslash => rfl
  | escape _ ih => rw [afterQuote_escape, ih]
  | unit hbackslash hquote _ ih => rw [afterQuote_unit hbackslash hquote, ih]

/-- After a quote the string is closed somewhere, or it goes on to the end of the text. The
induction follows the search for the closing quote, two units at a time after a backslash. -/
theorem closed_or_unclosed (t : Text) : (∃ s rest, Closed s ∧ t = s ++ rest) ∨ Unclosed t := by
  fun_induction afterQuote t with
  | case1 => exact .inr .nil
  | case2 u =>
      by_cases hquote : u = 0x22
      · subst hquote
        exact .inl ⟨_, [], .quote, rfl⟩
      · by_cases hbackslash : u = 0x5C
        · subst hbackslash
          exact .inr .backslash
        · exact .inr (.unit hbackslash hquote .nil)
  | case3 v t ih =>
      rcases ih with ⟨s, rest, hs, rfl⟩ | h
      · exact .inl ⟨_, rest, .escape hs, rfl⟩
      · exact .inr (.escape h)
  | case4 v t _ => exact .inl ⟨_, v :: t, .quote, rfl⟩
  | case5 u v t hbackslash hquote ih =>
      rcases ih with ⟨s, rest, hs, hrest⟩ | h
      · exact .inl ⟨u :: s, rest, .unit hbackslash hquote hs, by rw [hrest, List.cons_append]⟩
      · exact .inr (.unit hbackslash hquote h)

/-- What stands behind a string is no longer than the text. The passes go on there, and end for this
reason. -/
theorem length_afterQuote_le (t : Text) : (afterQuote t).2.length ≤ t.length := by
  fun_induction afterQuote t with
  | case1 => exact Nat.le_refl 0
  | case2 u => exact Nat.zero_le _
  | case3 v t ih =>
      simp only [List.length_cons]
      omega
  | case4 v t _ => simp only [List.length_cons]; omega
  | case5 u v t _ _ ih =>
      simp only [List.length_cons] at ih ⊢
      omega

/-- What holds of a text if it holds of what is left without the string, the comment or the unit in
front holds of every text. Of a comment the line end is left, so it may be taken from there or from
behind it.

The three functions below take a text piece by piece in this way. Stating the induction once keeps
the search for the end of a string out of their proofs. -/
theorem piece_induction {motive : Text → Prop} (t : Text) (nil : motive [])
    (string : ∀ s t, Closed s → motive t → motive (0x22 :: (s ++ t)))
    (openString : ∀ s, Unclosed s → motive (0x22 :: s))
    (comment : ∀ c t, 0x0A ∉ c → motive (0x0A :: t) → motive t →
      motive (0x2F :: 0x2F :: (c ++ 0x0A :: t)))
    (openComment : ∀ c, 0x0A ∉ c → motive (0x2F :: 0x2F :: c))
    (unit : ∀ u t, u ≠ 0x22 → ¬ (u = 0x2F ∧ t.head? = some 0x2F) → motive t → motive (u :: t)) :
    motive t := by
  induction hn : t.length using Nat.strong_induction_on generalizing t with
  | _ n ih =>
  cases t with
  | nil => exact nil
  | cons u t =>
      rw [List.length_cons] at hn
      by_cases hquote : u = 0x22
      · subst hquote
        rcases closed_or_unclosed t with ⟨s, rest, hs, rfl⟩ | hs
        · rw [List.length_append] at hn
          exact string s rest hs (ih rest.length (by omega) rest rfl)
        · exact openString t hs
      · by_cases hcomment : u = 0x2F ∧ t.head? = some 0x2F
        · obtain ⟨rfl, hsecond⟩ := hcomment
          rcases comment_cases hsecond with ⟨c, hc, rfl⟩ | ⟨c, rest, hc, rfl⟩
          · exact openComment c hc
          · simp only [List.length_cons, List.length_append] at hn
            -- The line end is a piece of its own, and what follows it is shorter still.
            exact comment c rest hc (ih (rest.length + 1) (by omega) (0x0A :: rest) rfl)
              (ih rest.length (by omega) rest rfl)
        · exact unit u t hquote hcomment (ih t.length (by omega) t rfl)

/-! ### The two passes -/

/-- The first pass: comments are deleted, up to the line end or the end of the text. A string is
copied as it is, so slashes within it begin no comment. It knows nothing of commas. -/
def dropComments : Text → Text
  | [] => []
  | u :: t =>
    if u = 0x22 then u :: ((afterQuote t).1 ++ dropComments (afterQuote t).2)
    else if u = 0x2F ∧ t.head? = some 0x2F then dropComments (t.dropWhile (· != 0x0A))
    else u :: dropComments t
  termination_by t => t.length
  decreasing_by
    · have := length_afterQuote_le t
      simp only [List.length_cons]
      omega
    · have := (List.dropWhile_suffix (l := t) (· != 0x0A)).length_le
      simp only [List.length_cons]
      omega
    · simp

/-- The first unit that is no white space is a closing bracket. The second pass looks ahead with
this, over any amount of white space. -/
def closes (t : Text) : Bool :=
  (t.dropWhile Unicode.isBlank).head?.any fun u => u == 0x5D || u == 0x7D

/-- The second pass: commas before a closing bracket are deleted. A string is copied as it is. It
knows nothing of comments, which are gone by then. -/
def dropCommas : Text → Text
  | [] => []
  | u :: t =>
    if u = 0x22 then u :: ((afterQuote t).1 ++ dropCommas (afterQuote t).2)
    else if u = 0x2C ∧ closes t = true then dropCommas t
    else u :: dropCommas t
  termination_by t => t.length
  decreasing_by
    · have := length_afterQuote_le t
      simp only [List.length_cons]
      omega
    · simp
    · simp

/-! ### What the scan makes of a string -/

/-- The scan copies a closed string and goes on between tokens, with no comma held back. The
induction is on the string; the cases are its units and what is behind a backslash. -/
theorem stripFrom_string_closed {s : Text} (h : Closed s) (t : Text) :
    stripFrom .string none (s ++ t) = s ++ stripFrom .plain none t := by
  induction h with
  | quote => rfl
  | escape _ ih =>
      rw [List.cons_append, List.cons_append, stripFrom, if_pos rfl, stripFrom, ih]
      rfl
  | unit hbackslash hquote _ ih =>
      rw [List.cons_append, stripFrom, if_neg hbackslash, if_neg hquote, ih, List.cons_append]

/-- The scan copies a string that is not closed to the end of the text, also a backslash at the very
end. -/
theorem stripFrom_string_unclosed {s : Text} (h : Unclosed s) : stripFrom .string none s = s := by
  induction h with
  | nil => rfl
  | backslash => rfl
  | escape _ ih => rw [stripFrom, if_pos rfl, stripFrom, ih]
  | unit hbackslash hquote _ ih => rw [stripFrom, if_neg hbackslash, if_neg hquote, ih]

/-- What the scan makes of a unit that is nothing of its own: it is written, and a comma that was
held back is written before it. -/
theorem stripFrom_other {u : CodeUnit} {t : Text} (hcomment : ¬ (u = 0x2F ∧ t.head? = some 0x2F))
    (hblank : Unicode.isBlank u = false) (hclose : ¬ (u = 0x5D ∨ u = 0x7D)) (hcomma : u ≠ 0x2C)
    (hquote : u ≠ 0x22) (held : Option Text) :
    stripFrom .plain held (u :: t) = release held ++ u :: stripFrom .plain none t := by
  rw [stripFrom_plain_cons, if_neg hcomment, if_neg hcomma, hblank, if_neg Bool.false_ne_true,
    if_neg hclose, if_neg hquote]

/-! ### The scan and the two passes -/

/-- What becomes of a comma that is held back, and of the white space with it, when a text follows
that has no comments. The comma goes if a closing bracket comes next, and the white space stays in
any case. This ties the memory of the scan to the look ahead of the second pass. -/
def settled (held : Option Text) (t : Text) : Text :=
  if closes t then held.getD [] else release held

/-- A text that begins with a unit that is no white space begins to close exactly if this unit is a
closing bracket. -/
theorem closes_cons {u : CodeUnit} (hblank : Unicode.isBlank u = false) (t : Text) :
    closes (u :: t) = (u == 0x5D || u == 0x7D) := by
  rw [closes, List.dropWhile_cons_of_neg (by simp [hblank])]
  rfl

/-- White space in front is looked through. -/
theorem closes_blank {u : CodeUnit} (hblank : Unicode.isBlank u = true) (t : Text) :
    closes (u :: t) = closes t := by
  rw [closes, List.dropWhile_cons_of_pos hblank, closes]

/-- A unit that is neither white space nor a closing bracket releases a comma, whatever follows it.
-/
theorem settled_cons {u : CodeUnit} (hblank : Unicode.isBlank u = false)
    (hclose : ¬ (u = 0x5D ∨ u = 0x7D)) (held : Option Text) (t : Text) :
    settled held (u :: t) = release held := by
  have hopen : closes (u :: t) = false := by
    rw [closes_cons hblank]
    simpa using hclose
  rw [settled, hopen]
  rfl

/-- Where no comma is held back, nothing becomes of it. -/
theorem settled_none (t : Text) : settled none t = [] := by
  unfold settled
  split <;> rfl

/-! What the passes make of a string, a comment and any other unit. -/

/-- No unit of a comment ends the line: neither its second slash nor what follows. -/
theorem bne_lineEnd {c : Text} (hc : 0x0A ∉ c) : ∀ u ∈ 0x2F :: c, (u != 0x0A) = true := by
  intro u hu
  rw [bne_iff_ne]
  rintro rfl
  exact hc ((List.mem_cons.mp hu).resolve_left (by decide))

/-- What is dropped of a comment ends before its line end, which is left. -/
theorem dropWhile_comment {c : Text} (hc : 0x0A ∉ c) (t : Text) :
    (0x2F :: (c ++ 0x0A :: t)).dropWhile (· != 0x0A) = 0x0A :: t := by
  rw [← List.cons_append, List.dropWhile_append_of_pos (bne_lineEnd hc),
    List.dropWhile_cons_of_neg (by decide)]

/-- A comment without a line end is dropped up to the end of the text. -/
theorem dropWhile_openComment {c : Text} (hc : 0x0A ∉ c) :
    (0x2F :: c).dropWhile (· != 0x0A) = [] :=
  List.dropWhile_eq_nil_iff.mpr (bne_lineEnd hc)

/-- Nothing is left of nothing. The pass is defined by recursion on the length, so even this is an
equation to be proved. -/
theorem dropComments_nil : dropComments [] = [] := by rw [dropComments]

/-- The same for the second pass. -/
theorem dropCommas_nil : dropCommas [] = [] := by rw [dropCommas]

/-- The first pass leaves a closed string as it is and goes on behind it. -/
theorem dropComments_string {s : Text} (h : Closed s) (t : Text) :
    dropComments (0x22 :: (s ++ t)) = 0x22 :: (s ++ dropComments t) := by
  rw [dropComments, if_pos rfl, afterQuote_closed h]

/-- So does the second pass. After the first one it finds the same string, because that one kept it.
-/
theorem dropCommas_string {s : Text} (h : Closed s) (t : Text) :
    dropCommas (0x22 :: (s ++ t)) = 0x22 :: (s ++ dropCommas t) := by
  rw [dropCommas, if_pos rfl, afterQuote_closed h]

/-- The first pass leaves a string that is not closed as it is. -/
theorem dropComments_openString {s : Text} (h : Unclosed s) :
    dropComments (0x22 :: s) = 0x22 :: s := by
  rw [dropComments, if_pos rfl, afterQuote_unclosed h, dropComments_nil, List.append_nil]

/-- So does the second pass. -/
theorem dropCommas_openString {s : Text} (h : Unclosed s) :
    dropCommas (0x22 :: s) = 0x22 :: s := by
  rw [dropCommas, if_pos rfl, afterQuote_unclosed h, dropCommas_nil, List.append_nil]

/-- A comma is deleted exactly if it would be dropped where it is held back. Here the look ahead of
the pass and the memory of the scan meet. -/
theorem dropCommas_comma (t : Text) :
    dropCommas (0x2C :: t) = settled (some []) t ++ dropCommas t := by
  rw [dropCommas, if_neg (by decide)]
  by_cases hclose : closes t = true
  · simp [settled, hclose]
  · simp [settled, hclose, release]

/-- White space goes with the comma: it joins what is held back, and in the end it is written
whether or not the comma is. -/
theorem settled_blank {u : CodeUnit} (hblank : Unicode.isBlank u = true) (blanks t : Text) :
    settled (some (blanks ++ [u])) t = settled (some blanks) (u :: t) ++ [u] := by
  unfold settled
  rw [closes_blank hblank]
  split
  · rfl
  · rfl

/-- A closing bracket drops the comma, but not the white space behind it. -/
theorem settled_close {u : CodeUnit} (hclose : u = 0x5D ∨ u = 0x7D) (held : Option Text)
    (t : Text) : settled held (u :: t) = held.getD [] := by
  have hblank : Unicode.isBlank u = false := by rcases hclose with rfl | rfl <;> decide
  have hcloses : closes (u :: t) = true := by
    rw [closes_cons hblank]
    simpa using hclose
  rw [settled, if_pos hcloses]

/-- Of a comment the line end is left. It is white space, so it does not change what follows a
comma. -/
theorem dropComments_comment {c : Text} (hc : 0x0A ∉ c) (t : Text) :
    dropComments (0x2F :: 0x2F :: (c ++ 0x0A :: t)) = 0x0A :: dropComments t := by
  rw [dropComments, if_neg (by decide), if_pos ⟨rfl, rfl⟩, dropWhile_comment hc, dropComments,
    if_neg (by decide), if_neg fun h => absurd h.1 (by decide)]

/-- A comment that goes on to the end of the text is deleted, and nothing is left of it. -/
theorem dropComments_openComment {c : Text} (hc : 0x0A ∉ c) :
    dropComments (0x2F :: 0x2F :: c) = [] := by
  rw [dropComments, if_neg (by decide), if_pos ⟨rfl, rfl⟩, dropWhile_openComment hc,
    dropComments_nil]

/-- The first pass keeps a unit that begins neither a string nor a comment. -/
theorem dropComments_unit {u : CodeUnit} {t : Text} (hquote : u ≠ 0x22)
    (hcomment : ¬ (u = 0x2F ∧ t.head? = some 0x2F)) :
    dropComments (u :: t) = u :: dropComments t := by
  rw [dropComments, if_neg hquote, if_neg hcomment]

/-- The second pass keeps a unit that is neither a quote nor a comma. -/
theorem dropCommas_unit {u : CodeUnit} {t : Text} (hquote : u ≠ 0x22) (hcomma : u ≠ 0x2C) :
    dropCommas (u :: t) = u :: dropCommas t := by
  rw [dropCommas, if_neg hquote, if_neg fun h => hcomma h.1]

/-- What the scan makes of a text between tokens is what the two passes make of it, after the comma
that was held back. The induction is along the pieces of the text, for any comma that is held back:
this is the invariant that joins one scan and two passes. -/
theorem stripFrom_plain_eq (held : Option Text) (t : Text) :
    stripFrom .plain held t = settled held (dropComments t) ++ dropCommas (dropComments t) := by
  induction t using piece_induction generalizing held with
  | nil =>
      rw [dropComments, dropCommas, List.append_nil]
      rfl
  | string s t hs ih =>
      rw [stripFrom_quote, stripFrom_string_closed hs, ih none, settled_none, List.nil_append,
        dropComments_string hs, dropCommas_string hs, settled_cons (by decide) (by decide)]
  | openString s hs =>
      rw [stripFrom_quote, stripFrom_string_unclosed hs, dropComments_openString hs,
        dropCommas_openString hs, settled_cons (by decide) (by decide)]
  | comment c t hc ih _ =>
      have hend : dropComments (0x0A :: t) = 0x0A :: dropComments t :=
        dropComments_unit (by decide) fun h => absurd h.1 (by decide)
      -- Both keep the line end, so the hypothesis is the one about the text that begins with it.
      rw [stripFrom_closed hc, ih held, hend, dropComments_comment hc]
  | openComment c hc =>
      rw [stripFrom_unclosed hc, dropComments_openComment hc, dropCommas_nil, List.append_nil]
      rfl
  | unit u t hquote hcomment ih =>
      rw [dropComments_unit hquote hcomment]
      by_cases hcomma : u = 0x2C
      · subst hcomma
        -- The comma is held back in place of the one before it.
        rw [stripFrom_comma, ih, settled_cons (by decide) (by decide), dropCommas_comma]
      · rw [dropCommas_unit hquote hcomma]
        by_cases hblank : Unicode.isBlank u = true
        · cases held with
          | none => rw [stripFrom_blank hblank, ih, settled_none, settled_none]; rfl
          | some blanks =>
              rw [stripFrom_blank_held hblank, ih, settled_blank hblank, List.append_assoc,
                List.singleton_append]
        · have hplain : Unicode.isBlank u = false := by simpa using hblank
          by_cases hclose : u = 0x5D ∨ u = 0x7D
          · rw [stripFrom_close hclose, ih, settled_none, settled_close hclose, List.nil_append]
          · rw [settled_cons hplain hclose, stripFrom_other hcomment hplain hclose hcomma hquote,
              ih, settled_none, List.nil_append]

/-! ### The scan in one buffer -/

/-- The buffer without the unit at a place, if there is one. This is the only way in which the scan
changes what it has written. -/
def without (place : Option Nat) (out : Text) : Text :=
  match place with
  | none => out
  | some i => out.eraseIdx i

/-- The scan of a text in one buffer: what was written so far, whether that ends within a string,
and the place of a comma in it after which there is only white space. A closing bracket takes the
comma out of the buffer again. -/
def scan (out : Text) (inString : Bool) (comma : Option Nat) : Text → Text
  | [] => out
  | u :: t =>
    if inString then
      if u = 0x5C then scan (out ++ u :: t.take 1) true comma (t.drop 1)
      else scan (out ++ [u]) (u != 0x22) comma t
    else if u = 0x2F ∧ t.head? = some 0x2F then scan out false comma (t.dropWhile (· != 0x0A))
    else
      let kept := if u = 0x5D ∨ u = 0x7D then without comma out else out
      let place :=
        if u = 0x2C then some kept.length else if Unicode.isBlank u then comma else none
      scan (kept ++ [u]) (u == 0x22) place t
  termination_by t => t.length
  decreasing_by
    · simp only [List.length_drop, List.length_cons]
      omega
    · simp
    · have := (List.dropWhile_suffix (l := t) (· != 0x0A)).length_le
      simp only [List.length_cons]
      omega
    · simp

/-- At the end of the text the buffer is the result, with a comma that no bracket came for. -/
theorem scan_nil (out : Text) (inString : Bool) (comma : Option Nat) :
    scan out inString comma [] = out := by
  rw [scan]

/-- A string is copied to the buffer. No place is remembered within it, as a comma was released by
the quote. -/
theorem scan_string {s : Text} (h : Closed s) (out t : Text) :
    scan out true none (s ++ t) = scan (out ++ s) false none t := by
  induction h generalizing out with
  | quote => simp [scan]
  | escape _ ih =>
      rw [List.cons_append, List.cons_append, scan]
      simp [ih]
  | @unit u s hbackslash hquote _ ih =>
      have hopen : (u != 0x22) = true := bne_iff_ne.mpr hquote
      rw [List.cons_append, scan, if_pos rfl, if_neg hbackslash, hopen, ih, List.append_assoc,
        List.singleton_append]

/-- A string that is not closed is copied to the buffer, and then the text ends. -/
theorem scan_openString {s : Text} (h : Unclosed s) (out : Text) :
    scan out true none s = out ++ s := by
  induction h generalizing out with
  | nil => rw [scan_nil, List.append_nil]
  | backslash => simp [scan]
  | escape _ ih =>
      rw [scan]
      simp [ih]
  | @unit u s hbackslash hquote _ ih =>
      have hopen : (u != 0x22) = true := bne_iff_ne.mpr hquote
      rw [scan, if_pos rfl, if_neg hbackslash, hopen, ih, List.append_assoc, List.singleton_append]

/-- A comment writes nothing, and the place of a comma is kept across it. -/
theorem scan_comment {c : Text} (hc : 0x0A ∉ c) (out : Text) (comma : Option Nat) (t : Text) :
    scan out false comma (0x2F :: 0x2F :: (c ++ 0x0A :: t)) = scan out false comma (0x0A :: t) := by
  rw [scan, if_neg Bool.false_ne_true, if_pos ⟨rfl, rfl⟩, dropWhile_comment hc]

/-- A comment that goes on to the end of the text writes nothing, and the buffer is the result. -/
theorem scan_openComment {c : Text} (hc : 0x0A ∉ c) (out : Text) (comma : Option Nat) :
    scan out false comma (0x2F :: 0x2F :: c) = out := by
  rw [scan, if_neg Bool.false_ne_true, if_pos ⟨rfl, rfl⟩, dropWhile_openComment hc, scan_nil]

/-- A unit outside strings and comments that is no white space and no closing bracket is written
behind what is in the buffer, and if it is a comma its place is remembered. -/
theorem scan_unit {u : CodeUnit} {t : Text} (hcomment : ¬ (u = 0x2F ∧ t.head? = some 0x2F))
    (hblank : Unicode.isBlank u = false) (hclose : ¬ (u = 0x5D ∨ u = 0x7D)) (out : Text)
    (comma : Option Nat) :
    scan out false comma (u :: t)
      = scan (out ++ [u]) (u == 0x22) (if u = 0x2C then some out.length else none) t := by
  rw [scan]
  simp [hcomment, hclose, hblank]

/-- A quote begins a string, and the place of a comma is forgotten. -/
theorem scan_quote (out : Text) (comma : Option Nat) (t : Text) :
    scan out false comma (0x22 :: t) = scan (out ++ [0x22]) true none t :=
  scan_unit (fun h => absurd h.1 (by decide)) (by decide) (by decide) out comma

/-- White space is written behind what is in the buffer, and the place of a comma is kept. -/
theorem scan_blank {u : CodeUnit} (hblank : Unicode.isBlank u = true) (out : Text)
    (comma : Option Nat) (t : Text) :
    scan out false comma (u :: t) = scan (out ++ [u]) false comma t := by
  have hother : u ≠ 0x5D ∧ u ≠ 0x7D ∧ (u == 0x22) = false := by
    rw [beq_eq_false_iff_ne]
    refine ⟨?_, ?_, ?_⟩ <;> rintro rfl <;> exact absurd hblank (by decide)
  rw [scan]
  simp [ne_of_isBlank hblank, hother, hblank]

/-- A closing bracket takes the comma out of the buffer and is written behind what is left. -/
theorem scan_close {u : CodeUnit} (hclose : u = 0x5D ∨ u = 0x7D) (out : Text)
    (comma : Option Nat) (t : Text) :
    scan out false comma (u :: t) = scan (without comma out ++ [u]) false none t := by
  have hother : u ≠ 0x2F ∧ u ≠ 0x2C ∧ (u == 0x22) = false ∧ Unicode.isBlank u = false := by
    rcases hclose with rfl | rfl <;> decide
  rw [scan]
  simp [hother, hclose]

/-- Without the comma at its place what is held back is left, without the comma. -/
theorem without_release (done : Text) (held : Option Text) :
    without (held.map fun _ => done.length) (done ++ release held) = done ++ held.getD [] := by
  cases held with
  | none => rfl
  | some blanks => simp [without, release, List.eraseIdx_append_of_length_le]

/-- The comma that is held back is in the buffer, at the place that is remembered. With this
invariant the scan in one buffer writes what the other one writes, behind what was done before; the
induction is along the pieces again. -/
theorem scan_plain_eq (done : Text) (held : Option Text) (t : Text) :
    scan (done ++ release held) false (held.map fun _ => done.length) t
      = done ++ stripFrom .plain held t := by
  induction t using piece_induction generalizing done held with
  | nil =>
      rw [scan_nil]
      rfl
  | string s t hs ih =>
      -- The quote has released the comma, so behind the string nothing is held back.
      have hbehind := ih (done ++ release held ++ 0x22 :: s) none
      rw [release, List.append_nil, Option.map_none] at hbehind
      rw [scan_quote,
        scan_string hs, stripFrom_quote, stripFrom_string_closed hs, List.append_assoc _ [0x22],
        List.singleton_append, hbehind]
      simp
  | openString s hs =>
      rw [scan_quote,
        scan_openString hs, stripFrom_quote, stripFrom_string_unclosed hs]
      simp
  | comment c t hc ih _ => rw [scan_comment hc, stripFrom_closed hc, ih]
  | openComment c hc => rw [scan_openComment hc, stripFrom_unclosed hc]
  | unit u t hquote hcomment ih =>
      -- Where no comma is held back, what follows is written behind the buffer.
      have hrest : ∀ out, scan out false none t = out ++ stripFrom .plain none t := by
        intro out
        have h := ih out none
        rwa [release, List.append_nil] at h
      by_cases hblank : Unicode.isBlank u = true
      · rw [scan_blank hblank]
        cases held with
        | none =>
            rw [stripFrom_blank hblank, Option.map_none, hrest]
            simp [release]
        | some blanks =>
            have h := ih done (some (blanks ++ [u]))
            rw [stripFrom_blank_held hblank, ← h]
            simp [release]
      · have hplain : Unicode.isBlank u = false := by simpa using hblank
        by_cases hclose : u = 0x5D ∨ u = 0x7D
        · rw [scan_close hclose, without_release, hrest, stripFrom_close hclose]
          simp
        · rw [scan_unit hcomment hplain hclose]
          by_cases hcomma : u = 0x2C
          · subst hcomma
            have h := ih (done ++ release held) (some [])
            rw [stripFrom_comma, if_pos rfl, ← List.append_assoc, ← h]
            rfl
          · have hopen : (u == 0x22) = false := by simpa using hquote
            rw [if_neg hcomma, hopen, hrest, stripFrom_other hcomment hplain hclose hcomma hquote]
            simp

/-! ### Strings within a text -/

/-- The text ends outside strings and comments: each of them is closed. Behind such a text a scan
starts anew. -/
inductive Whole : Text → Prop where
  | nil : Whole []
  | string {s t : Text} (hs : Closed s) (ht : Whole t) : Whole (0x22 :: (s ++ t))
  | comment {c t : Text} (hc : 0x0A ∉ c) (ht : Whole t) : Whole (0x2F :: 0x2F :: (c ++ 0x0A :: t))
  | unit {u : CodeUnit} {t : Text} (hquote : u ≠ 0x22)
      (hcomment : ¬ (u = 0x2F ∧ t.head? = some 0x2F)) (ht : Whole t) : Whole (u :: t)

/-- A quote outside strings and comments ends what the scan holds back and begins a string. So what
is written before the quote does not depend on what is behind it. -/
theorem stripFrom_whole {x : Text} (h : Whole x) (held : Option Text) (s : Text) :
    stripFrom .plain held (x ++ 0x22 :: s)
      = stripFrom .plain held x ++ 0x22 :: stripFrom .string none s := by
  induction h generalizing held with
  | nil => exact stripFrom_quote held
  | string hs _ ih =>
      simp only [List.cons_append, List.append_assoc]
      rw [stripFrom_quote, stripFrom_quote, stripFrom_string_closed hs, stripFrom_string_closed hs,
        ih]
      simp
  | comment hc _ ih =>
      simp only [List.cons_append, List.append_assoc]
      rw [stripFrom_closed hc, stripFrom_closed hc]
      cases held with
      | none => rw [stripFrom_blank (by decide), stripFrom_blank (by decide), ih, List.cons_append]
      | some blanks =>
          -- The line end that is left of the comment joins the white space that is held back.
          rw [stripFrom_blank_held (by decide), stripFrom_blank_held (by decide)]
          exact ih _
  | @unit u t hquote hcomment _ ih =>
      -- The quote that was added is no slash, so no comment begins across the border.
      have hcomment' : ¬ (u = 0x2F ∧ (t ++ 0x22 :: s).head? = some 0x2F) := by
        rintro ⟨hslash, hsecond⟩
        cases t with
        | nil => exact absurd (Option.some.inj hsecond) (by decide)
        | cons v t => exact hcomment ⟨hslash, hsecond⟩
      rw [List.cons_append, stripFrom_plain_cons, stripFrom_plain_cons, if_neg hcomment,
        if_neg hcomment']
      split
      · rw [ih, List.append_assoc]
      split
      · cases held with
        | none => rw [ih none, List.cons_append]
        | some blanks => exact ih _
      split
      · rw [ih, List.append_assoc, List.cons_append]
      · rw [ih, List.append_assoc, List.cons_append]

/-- Every text ends outside strings and comments, in a comment or in a string. The induction along
the pieces takes the text apart and puts it together again. -/
theorem whole_or_open (t : Text) :
    Whole t ∨ (∃ x c, Whole x ∧ 0x0A ∉ c ∧ t = x ++ 0x2F :: 0x2F :: c) ∨
      ∃ x s, Whole x ∧ Unclosed s ∧ t = x ++ 0x22 :: s := by
  -- A string, a comment or a unit in front changes nothing about how the rest ends.
  have hfront : ∀ front rest : Text, (∀ x, x <+: rest → Whole x → Whole (front ++ x)) →
      (Whole rest ∨ (∃ x c, Whole x ∧ 0x0A ∉ c ∧ rest = x ++ 0x2F :: 0x2F :: c) ∨
        ∃ x s, Whole x ∧ Unclosed s ∧ rest = x ++ 0x22 :: s) →
      Whole (front ++ rest) ∨
        (∃ x c, Whole x ∧ 0x0A ∉ c ∧ front ++ rest = x ++ 0x2F :: 0x2F :: c) ∨
        ∃ x s, Whole x ∧ Unclosed s ∧ front ++ rest = x ++ 0x22 :: s := by
    intro front rest hwhole h
    rcases h with h | ⟨x, c, hx, hc, rfl⟩ | ⟨x, s, hx, hs, rfl⟩
    · exact .inl (hwhole rest (List.prefix_refl rest) h)
    · have hx' := hwhole x (List.prefix_append _ _) hx
      exact .inr (.inl ⟨front ++ x, c, hx', hc, (List.append_assoc _ _ _).symm⟩)
    · have hx' := hwhole x (List.prefix_append _ _) hx
      exact .inr (.inr ⟨front ++ x, s, hx', hs, (List.append_assoc _ _ _).symm⟩)
  induction t using piece_induction with
  | nil => exact .inl .nil
  | string s t hs ih => exact hfront (0x22 :: s) t (fun x _ hx => .string hs hx) ih
  | openString s hs => exact .inr (.inr ⟨[], s, .nil, hs, rfl⟩)
  | comment c t hc _ ih =>
      have h := hfront (0x2F :: 0x2F :: (c ++ [0x0A])) t
        (fun x _ hx => by simpa using Whole.comment hc hx) ih
      simpa using h
  | openComment c hc => exact .inr (.inl ⟨[], c, .nil, hc, rfl⟩)
  | unit u t hquote hcomment ih =>
      refine hfront [u] t (fun x hprefix hx => .unit hquote ?_ hx) ih
      rintro ⟨hslash, hsecond⟩
      obtain ⟨rest, rfl⟩ := hprefix
      have hhead : x.head? = some 0x2F := hsecond
      refine hcomment ⟨hslash, ?_⟩
      rw [List.head?_append, hhead, Option.some_or]

/-- The scan of a text, in one pass, and what two passes make of the text.

The scan gives what is left when first the comments are deleted and then the commas before closing
brackets, both outside strings, and it does so for every text. It can be done in one buffer. Every
text ends outside strings and comments, in a comment or in a string; and a string is copied unit for
unit, wherever it begins: a closed one, after which the scan goes on as it would alone, and one that
goes on to the end of the text, also with a backslash there. -/
theorem strip_eq_two_passes :
    (∀ t, strip t = dropCommas (dropComments t)) ∧
    (∀ t, scan [] false none t = strip t) ∧
    (∀ t, Whole t ∨ (∃ x c, Whole x ∧ 0x0A ∉ c ∧ t = x ++ 0x2F :: 0x2F :: c) ∨
      ∃ x s, Whole x ∧ Unclosed s ∧ t = x ++ 0x22 :: s) ∧
    (∀ x s t, Whole x → Closed s →
      strip (x ++ 0x22 :: (s ++ t)) = strip x ++ 0x22 :: (s ++ strip t)) ∧
    ∀ x s, Whole x → Unclosed s → strip (x ++ 0x22 :: s) = strip x ++ 0x22 :: s := by
  refine ⟨?passes, ?buffer, whole_or_open, ?closed, ?unclosed⟩
  case passes =>
    intro t
    rw [strip, stripFrom_plain_eq, settled_none, List.nil_append]
  case buffer =>
    intro t
    exact scan_plain_eq [] none t
  case closed =>
    intro x s t hx hs
    rw [strip, stripFrom_whole hx, stripFrom_string_closed hs, strip, strip]
  case unclosed =>
    intro x s hx hs
    rw [strip, stripFrom_whole hx, stripFrom_string_unclosed hs, strip]

/-- An opening bracket, a comma and a comment up to its line end. At the end of it a comma is held
back. -/
def heldText : Text := [0x5B, 0x2C, 0x2F, 0x2F, 0x5D, 0x0A]

/-- What follows an opening quote: two slashes, a comma, a bracket, and a backslash at the end.
Outside of a string all of these would count. -/
def openString : Text := [0x2F, 0x2F, 0x2C, 0x5D, 0x5C]

/-- The same, with an escaped quote and the closing one after it. -/
def closedString : Text := [0x2F, 0x2F, 0x2C, 0x5D, 0x5C, 0x22, 0x22]

/-- The comma stays, since a string follows and no bracket, and the strings are left as they are. -/
theorem strip_eq_two_passes_strings :
    Whole heldText ∧ Closed closedString ∧ Unclosed openString ∧
    strip heldText = dropCommas (dropComments heldText) ∧
    strip (heldText ++ 0x22 :: (closedString ++ heldText))
      = strip heldText ++ 0x22 :: (closedString ++ strip heldText) ∧
    strip (heldText ++ 0x22 :: openString) = strip heldText ++ 0x22 :: openString := by
  have hheld : Whole heldText :=
    .unit (by decide) (by decide) (.unit (by decide) (by decide)
      (.comment (c := [0x5D]) (by decide) .nil))
  have hclosed : Closed closedString :=
    .unit (by decide) (by decide) (.unit (by decide) (by decide) (.unit (by decide) (by decide)
      (.unit (by decide) (by decide) (.escape .quote))))
  have hopen : Unclosed openString :=
    .unit (by decide) (by decide) (.unit (by decide) (by decide) (.unit (by decide) (by decide)
      (.unit (by decide) (by decide) .backslash)))
  obtain ⟨hpasses, -, -, hcopied, hrest⟩ := strip_eq_two_passes
  exact ⟨hheld, hclosed, hopen, hpasses _, hcopied _ _ _ hheld hclosed, hrest _ _ hheld hopen⟩

end FieldMask.Config
