import Mathlib.Data.List.Forall2
import FieldMask.Proofs.Document
import FieldMask.Proofs.Mask
import FieldMask.Proofs.Provided

/-!
# `FieldMask.Proofs.Disclosure`: what a masked document discloses

A mask shows a part of a value and hides the rest. `Concealment.Alike` says when two values show
the same part, for each of the three ways to hide a value:

* names: the same first code point and the same number of code points, word by word;
* mail addresses: the same text from the first `@` on, and before it the same first code point and
  the same number of code points, at least two;
* digits: as many code points, the same last ones, and before them the same code points where
  neither value has a decimal digit.

Such values are masked to one text (`apply_eq_of_alike`). A document only shows what its masked
values show, which is `maskDocument_eq_of_alike`: two documents whose trees differ in such values
alone give the same text and the same counts.
-/

set_option autoImplicit false

namespace FieldMask

open Json (Visit)

/-- Lists whose elements have the same image, one by one, have the same image. By induction on the
pairs. -/
theorem map_eq_map_of_forall₂ {α β : Type} {R : α → α → Prop} {f : α → β} {as bs : List α}
    (h : List.Forall₂ R as bs) (hf : ∀ a b, R a b → f a = f b) : as.map f = bs.map f := by
  induction h with
  | nil => rfl
  | cons hab _ ih => rw [List.map_cons, List.map_cons, hf _ _ hab, ih]

/-! ### Values that show the same -/

/-- The two texts have the same first code point and as many code points. This is what a masked word
shows of the word, and what a masked mail address shows of its mailbox. -/
structure SameOutline (v w : Text) : Prop where
  head : v.points.head? = w.points.head?
  length : v.points.length = w.points.length

/-- The two code points are the same, or both of them are decimal digits, of whatever script and
whether they lie outside the basic plane or not. -/
def SameButDigits (c d : Nat) : Prop :=
  c = d ∨ (Unicode.isDecimalDigit c = true ∧ Unicode.isDecimalDigit d = true)

/-- Two names that show the same: neither is blank, and word by word they have the same outline. The
white space between the words is not shown, so it may differ. -/
structure NamesAlike (v w : Text) : Prop where
  notBlank : v.isBlank = false ∧ w.isBlank = false
  words : List.Forall₂ SameOutline v.words w.words

/-- Two mail addresses that show the same: the same text from the first `@` on, and mailboxes of the
same outline that are long enough not to be shown as they are. -/
structure EmailsAlike (v w : Text) : Prop where
  hasAt : v.contains Mask.atSign = true
  domain : Mask.domain v = Mask.domain w
  outline : SameOutline (Mask.mailbox v) (Mask.mailbox w)
  long : 2 ≤ (Mask.mailbox v).points.length

/-- Two numbers that show the same, if the last `keep` code points are kept: these are equal, and
before them the texts differ in digits alone. -/
structure DigitsAlike (keep : Nat) (v w : Text) : Prop where
  length : v.points.length = w.points.length
  last : v.points.drop (v.points.length - keep) = w.points.drop (w.points.length - keep)
  front : List.Forall₂ SameButDigits (v.points.take (v.points.length - keep))
    (w.points.take (w.points.length - keep))

/-- Two values that show the same under a way to hide values: one relation for each way, since each
shows something else of the value. -/
def Concealment.Alike : Concealment → Text → Text → Prop
  | .names => NamesAlike
  | .emails => EmailsAlike
  | .digits keep => DigitsAlike keep

namespace Mask

/-- Of a text only the first code point and the number of code points are shown, so texts of the
same outline give one text. -/
theorem tail_eq_of_sameOutline {v w : Text} (h : SameOutline v w) : tail v = tail w := by
  obtain ⟨hhead, hlength⟩ := h
  have hhide : hideTail v.points = hideTail w.points := by
    cases hv : v.points with
    | nil =>
        cases hw : w.points with
        | nil => rfl
        | cons d ds => simp [hv, hw] at hhead
    | cons c cs =>
        cases hw : w.points with
        | nil => simp [hv, hw] at hhead
        | cons d ds =>
            rw [hv, hw, List.head?_cons, List.head?_cons, Option.some.injEq] at hhead
            rw [hv, hw, List.length_cons, List.length_cons, Nat.succ.injEq] at hlength
            rw [hideTail, hideTail, hhead, List.map_const', List.map_const', hlength]
  rw [tail, tail, hhide]

/-- A name shows its words in outline, and that there is a space between any two of them. -/
theorem name_eq_of_alike {v w : Text} (h : NamesAlike v w) : name v = name w := by
  have hwords : v.words.map tail = w.words.map tail :=
    map_eq_map_of_forall₂ h.words fun _ _ => tail_eq_of_sameOutline
  have hv : ¬ v.isBlank = true := by simp [h.notBlank.1]
  have hw : ¬ w.isBlank = true := by simp [h.notBlank.2]
  rw [name, name, if_neg hv, if_neg hw, hwords]

/-- A mail address shows its mailbox in outline, and its domain as it is. -/
theorem email_eq_of_alike {v w : Text} (h : EmailsAlike v w) : email v = email w := by
  have hv : ¬ (domain v = [] ∨ (mailbox v).points.length < 2) :=
    not_or.mpr ⟨(contains_atSign_iff v).mp h.hasAt, Nat.not_lt.mpr h.long⟩
  -- What decides whether an address is masked is shown, so both are or neither.
  have hw : ¬ (domain w = [] ∨ (mailbox w).points.length < 2) := by
    rw [← h.domain, ← h.outline.length]
    exact hv
  rw [email_eq, email_eq, if_neg hv, if_neg hw, tail_eq_of_sameOutline h.outline, h.domain]

/-- Hiding does not tell two decimal digits apart: both become the same star. -/
theorem hideDigit_eq_of_sameButDigits {c d : Nat} (h : SameButDigits c d) :
    hideDigit c = hideDigit d := by
  rcases h with rfl | ⟨hc, hd⟩
  · rfl
  · rw [hideDigit, hideDigit, if_pos hc, if_pos hd]

/-- A number shows its last code points, and of the others which are digits. What is no digit is
shown as it is. -/
theorem digits_eq_of_alike {keep : Nat} {v w : Text} (h : DigitsAlike keep v w) :
    digits keep v = digits keep w := by
  obtain ⟨hlength, hlast, hfront⟩ := h
  unfold digits
  by_cases hshort : v.points.length ≤ keep
  · -- Nothing is hidden, and the last code points are all of them.
    have hshort' : w.points.length ≤ keep := hlength ▸ hshort
    rw [Nat.sub_eq_zero_of_le hshort, Nat.sub_eq_zero_of_le hshort', List.drop_zero,
      List.drop_zero] at hlast
    have heq : v = w := by
      rw [← Text.ofPoints_points v, hlast, Text.ofPoints_points]
    rw [heq]
  · have hlong : ¬ w.points.length ≤ keep := hlength ▸ hshort
    have hhidden := map_eq_map_of_forall₂ hfront fun _ _ => hideDigit_eq_of_sameButDigits
    simp only [if_neg hshort, if_neg hlong, hhidden, hlast]

end Mask

/-- Values that show the same are masked to one text, whichever way they are hidden. This is all
that the proofs about documents use of the masks. -/
theorem Concealment.apply_eq_of_alike {c : Concealment} {v w : Text} (h : c.Alike v w) :
    c.apply v = c.apply w := by
  cases c with
  | names => exact Mask.name_eq_of_alike h
  | emails => exact Mask.email_eq_of_alike h
  | digits keep => exact Mask.digits_eq_of_alike h

/-! ### Documents that show the same -/

namespace Settings

variable (s : Settings)

/-- Two visited members that show the same: one name, and one value unless the field is in scope and
the two values show the same under its strategy. Members out of scope show all of their values. -/
def Alike (m n : Visit) : Prop :=
  m.field = n.field ∧
    (m.value = n.value ∨ ∃ strategy c, s.strategyFor? m.field = some strategy ∧
      strategy.Provided c ∧ c.Alike m.value n.value)

/-- Two trees that show the same: they are equal, member order included, but for the values of
string members, and these show the same, one by one. -/
structure TreesAlike (a b : Json) : Prop where
  skeleton : a.skeleton = b.skeleton
  visits : List.Forall₂ s.Alike a.visits b.visits

/-- Members that show the same are rewritten to one member, whatever either value hides. -/
theorem rewritten_eq_of_alike {m n : Visit} (h : s.Alike m n) :
    m.rewritten s.masked = n.rewritten s.masked := by
  obtain ⟨hfield, hvalue⟩ := h
  rcases hvalue with hvalue | ⟨strategy, c, hs, hc, halike⟩
  · obtain ⟨field, v⟩ := m
    obtain ⟨other, w⟩ := n
    cases hfield
    cases hvalue
    rfl
  · have hn : s.strategyFor? n.field = some strategy := hfield ▸ hs
    rw [Visit.rewritten, Visit.rewritten, hfield, s.masked_of_provided hs hc,
      s.masked_of_provided hn hc, Concealment.apply_eq_of_alike halike]

/-- Trees that show the same are rewritten to one tree: a tree is given by its skeleton and the
texts of its string members. -/
theorem mapVisits_eq_of_alike {a b : Json} (h : s.TreesAlike a b) :
    a.mapVisits s.masked = b.mapVisits s.masked := by
  apply Json.eq_of_skeleton_eq
  · rw [Json.skeleton_mapVisits, Json.skeleton_mapVisits, h.skeleton]
  -- The string members are rewritten one by one, and each pair shows the same.
  · rw [Json.visits_mapVisits, Json.visits_mapVisits]
    exact map_eq_map_of_forall₂ h.visits fun _ _ => s.rewritten_eq_of_alike

/-- Trees that show the same are counted alike, since only the names of members decide what is
counted. -/
theorem hits_eq_of_alike {a b : Json} (h : s.TreesAlike a b) :
    s.hits a.visits = s.hits b.visits := by
  rw [hits, hits, map_eq_map_of_forall₂ h.visits fun _ _ hmn => hmn.1]

end Settings

namespace Engine

variable (e : Engine)

/-- With the strategies of the library, two documents that show the same give the same text, log
nothing and add the same counts to those before: what they hide is not in the result. -/
theorem maskDocument_eq_of_alike (henabled : e.settings.enabled = true)
    (hprovided : e.settings.AllProvided) {t u : Text} {a b : Record Json}
    (ha : Json.parse .same t = .ok (.object a)) (hb : Json.parse .same u = .ok (.object b))
    (h : e.settings.TreesAlike (.object a) (.object b)) :
    ∃ (out : Text) (hits : List Text), ∀ tally,
      e.maskDocument t tally = ⟨.ok out, hits.foldl Tally.add tally, []⟩ ∧
      e.maskDocument u tally = ⟨.ok out, hits.foldl Tally.add tally, []⟩ := by
  refine ⟨((Json.object a).mapVisits e.settings.masked).print,
    e.settings.hits (Json.object a).visits, fun tally => ⟨?_, ?_⟩⟩
  · rw [e.maskDocument_of_object henabled ha, e.settings.refusal?_of_provided hprovided]
    simp only [e.settings.foldl_count]
  · rw [e.maskDocument_of_object henabled hb, e.settings.refusal?_of_provided hprovided]
    simp only [e.settings.foldl_count]
    rw [e.settings.mapVisits_eq_of_alike h, e.settings.hits_eq_of_alike h]

/-- An engine with all strategies of the library, the one for card numbers in front of the default
ones, and a field for each. -/
def cardEngine : Engine :=
  create
    { fields := some (.text "name,email,phone,card")
      strategies := some (Strategy.forAccounts :: Strategy.defaults) }

/-- A customer, with a mail address that has two `@` and stands, with a phone number, in an object
inside a list. -/
def firstCustomer : Record Json :=
  [("name", .string "Ann Lee"),
    ("contact", .array
      [.object [("email", .string "ann@b@x.org"), ("phone", .string "(12) 345-678")]]),
    ("card", .string "1234 5678")]

/-- Another customer, with other white space in the name and a digit outside the basic plane in the
phone number. -/
def secondCustomer : Record Json :=
  [("name", .string " Abe  Lob"),
    ("contact", .array
      [.object [("email", .string "all@b@x.org"), ("phone", .string "(90) 1𝟎1-678")]]),
    ("card", .string "0000 5678")]

/-- All four strategies of this engine are of the library. -/
theorem allProvided_cardEngine : cardEngine.settings.AllProvided := by
  intro s hs
  have hs : s ∈ Strategy.forAccounts :: Strategy.defaults := hs
  simp only [Strategy.defaults, List.mem_cons, List.not_mem_nil, or_false] at hs
  rcases hs with rfl | rfl | rfl | rfl
  · exact ⟨_, Strategy.provided_forAccounts⟩
  · exact ⟨_, .names⟩
  · exact ⟨_, .emails⟩
  · exact ⟨_, .phones⟩

/-- The strategy of a field of `cardEngine` is the first one that accepts it, if the field is in
scope. -/
theorem strategyFor?_cardEngine (field : Text) (before after : List Strategy) {s : Strategy}
    (hsplit : Strategy.forAccounts :: Strategy.defaults = before ++ s :: after)
    (hallows : cardEngine.settings.fields.allows field = true)
    (hbefore : before.any (fun s => s.accepts field) = false) (hs : s.accepts field = true) :
    cardEngine.settings.strategyFor? field = some s := by
  rw [Settings.strategyFor?, if_pos hallows]
  exact Registry.find?_of_first before after hsplit hbefore hs

/-- The four fields of a customer have a strategy each, and all of them a different one. -/
theorem strategyFor?_customer :
    cardEngine.settings.strategyFor? "name" = some Strategy.forNames ∧
    cardEngine.settings.strategyFor? "email" = some Strategy.forEmails ∧
    cardEngine.settings.strategyFor? "phone" = some Strategy.forPhones ∧
    cardEngine.settings.strategyFor? "card" = some Strategy.forAccounts := by
  refine ⟨?_, ?_, ?_, ?_⟩
  · exact strategyFor?_cardEngine "name" [Strategy.forAccounts]
      [Strategy.forEmails, Strategy.forPhones] rfl (by decide +kernel) (by decide +kernel)
      (by decide +kernel)
  · exact strategyFor?_cardEngine "email" [Strategy.forAccounts, Strategy.forNames]
      [Strategy.forPhones] rfl (by decide +kernel) (by decide +kernel) (by decide +kernel)
  · exact strategyFor?_cardEngine "phone"
      [Strategy.forAccounts, Strategy.forNames, Strategy.forEmails] [] rfl (by decide +kernel)
      (by decide +kernel) (by decide +kernel)
  · exact strategyFor?_cardEngine "card" [] Strategy.defaults rfl (by decide +kernel)
      (by decide +kernel) (by decide +kernel)

/-- The two customers show the same: their trees differ in the values of the four fields only, and
each pair of values is alike. -/
theorem treesAlike_customers :
    cardEngine.settings.TreesAlike (.object firstCustomer) (.object secondCustomer) where
  skeleton := by decide +kernel
  visits := by
    have hname : NamesAlike "Ann Lee" " Abe  Lob" :=
      ⟨by decide +kernel, .cons ⟨by decide +kernel, by decide +kernel⟩
        (.cons ⟨by decide +kernel, by decide +kernel⟩ .nil)⟩
    have hemail : EmailsAlike "ann@b@x.org" "all@b@x.org" :=
      ⟨by decide +kernel, by decide +kernel, ⟨by decide +kernel, by decide +kernel⟩,
        by decide +kernel⟩
    have hphone : DigitsAlike 3 "(12) 345-678" "(90) 1𝟎1-678" :=
      ⟨by decide +kernel, by decide +kernel, by unfold SameButDigits; decide +kernel⟩
    have hcard : DigitsAlike 4 "1234 5678" "0000 5678" :=
      ⟨by decide +kernel, by decide +kernel, by unfold SameButDigits; decide +kernel⟩
    obtain ⟨hnames, hemails, hphones, hcards⟩ := strategyFor?_customer
    exact .cons ⟨rfl, .inr ⟨_, _, hnames, .names, hname⟩⟩
      (.cons ⟨rfl, .inr ⟨_, _, hemails, .emails, hemail⟩⟩
        (.cons ⟨rfl, .inr ⟨_, _, hphones, .phones, hphone⟩⟩
          (.cons ⟨rfl, .inr ⟨_, _, hcards, Strategy.provided_forAccounts, hcard⟩⟩ .nil)))

/-- The two customers are masked to one document, with one count for each strategy. -/
theorem maskDocument_customers :
    cardEngine.settings.enabled = true ∧ cardEngine.settings.AllProvided ∧
    Json.parse .same (Json.object firstCustomer).print = .ok (.object firstCustomer) ∧
    Json.parse .same (Json.object secondCustomer).print = .ok (.object secondCustomer) ∧
    cardEngine.settings.TreesAlike (.object firstCustomer) (.object secondCustomer) ∧
    cardEngine.maskDocument (Json.object firstCustomer).print .empty
      = cardEngine.maskDocument (Json.object secondCustomer).print .empty := by
  have hfirst : Json.parse .same (Json.object firstCustomer).print
      = .ok (.object firstCustomer) := by decide +kernel
  have hsecond : Json.parse .same (Json.object secondCustomer).print
      = .ok (.object secondCustomer) := by decide +kernel
  obtain ⟨out, hits, hrun⟩ := cardEngine.maskDocument_eq_of_alike rfl allProvided_cardEngine
    hfirst hsecond treesAlike_customers
  obtain ⟨hrunFirst, hrunSecond⟩ := hrun .empty
  exact ⟨rfl, allProvided_cardEngine, hfirst, hsecond, treesAlike_customers,
    hrunFirst.trans hrunSecond.symm⟩

end Engine

end FieldMask
