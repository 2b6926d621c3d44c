import Mathlib.Data.List.Forall2
import Preferences.Toml.Reader

/-! What readers read. A reader reads a text if it reads exactly that text before whatever stands
behind it, and reading is put together as readers are. -/

namespace Preferences.Toml.Reader

/-- Reads `text` in front of `rest`, and gives what is expected. -/
def Reads (p : Reader α) (text rest : List Char) (expected : α → Prop) : Prop :=
  ∀ offset, ∃ a, p ⟨text ++ rest, offset⟩ = some (a, ⟨rest, offset + text.length⟩) ∧ expected a

def Fails (p : Reader α) (text : List Char) : Prop := ∀ offset, p ⟨text, offset⟩ = none

/-- No character that passes a test stands first. -/
def Stops (test : Char → Bool) (text : List Char) : Prop := ∀ c ∈ text.head?, test c = false

theorem stops_cons {test : Char → Bool} {c : Char} {text : List Char} (h : test c = false) :
    Stops test (c :: text) := by
  rintro _ ⟨⟩
  exact h

variable {p q : Reader α} {text more rest : List Char} {expected : α → Prop}

/-! ### Sequences and choices -/

theorem bind_apply (p : Reader α) (f : α → Reader β) (cursor : Cursor) :
    (p >>= f) cursor = (p cursor).bind fun (a, cursor) => f a cursor := rfl

theorem orElse_apply (p q : Reader α) (cursor : Cursor) :
    (p <|> q) cursor = (p cursor).or (q cursor) := by
  show (p cursor <|> q cursor) = _
  cases p cursor <;> rfl

theorem Reads.imp {wider : α → Prop} (hp : Reads p text rest expected)
    (himp : ∀ a, expected a → wider a) : Reads p text rest wider := by
  intro offset
  obtain ⟨a, heq, ha⟩ := hp offset
  exact ⟨a, heq, himp a ha⟩

theorem Reads.pure {a : α} (h : expected a) : Reads (Pure.pure a) [] rest expected :=
  fun _ => ⟨a, rfl, h⟩

theorem Reads.bind {f : α → Reader β} {wanted : β → Prop}
    (hp : Reads p text (more ++ rest) expected)
    (hf : ∀ a, expected a → Reads (f a) more rest wanted) :
    Reads (p >>= f) (text ++ more) rest wanted := by
  intro offset
  obtain ⟨a, hpa, ha⟩ := hp offset
  obtain ⟨b, hfb, hb⟩ := hf a ha (offset + text.length)
  refine ⟨b, ?_, hb⟩
  rw [List.append_assoc, bind_apply, hpa, List.length_append, ← Nat.add_assoc]
  exact hfb

/-- A sequence whose first part gives a known value. -/
theorem Reads.next_step {f : α → Reader β} {wanted : β → Prop} {a : α}
    (hp : Reads p text (more ++ rest) (Eq a)) (hf : Reads (f a) more rest wanted) :
    Reads (p >>= f) (text ++ more) rest wanted :=
  hp.bind fun _ heq => heq ▸ hf

/-- A sequence of which all but the first part reads nothing. -/
theorem Reads.last_step {f : α → Reader β} {wanted : β → Prop} (hp : Reads p text rest expected)
    (hf : ∀ a, expected a → Reads (f a) [] rest wanted) : Reads (p >>= f) text rest wanted := by
  have h : Reads (p >>= f) (text ++ []) rest wanted := Reads.bind hp hf
  rwa [List.append_nil] at h

theorem Reads.map {f : α → β} {wanted : β → Prop} (hp : Reads p text rest expected)
    (hf : ∀ a, expected a → wanted (f a)) : Reads (f <$> p) text rest wanted := by
  intro offset
  obtain ⟨a, heq, ha⟩ := hp offset
  refine ⟨f a, ?_, hf a ha⟩
  show (p ⟨text ++ rest, offset⟩).bind _ = _
  rw [heq]
  rfl

theorem Reads.orElse_left (hp : Reads p text rest expected) :
    Reads (p <|> q) text rest expected := by
  intro offset
  obtain ⟨a, heq, ha⟩ := hp offset
  exact ⟨a, by rw [orElse_apply, heq, Option.some_or], ha⟩

theorem Reads.orElse_right (hp : Fails p (text ++ rest)) (hq : Reads q text rest expected) :
    Reads (p <|> q) text rest expected := by
  intro offset
  obtain ⟨a, heq, ha⟩ := hq offset
  exact ⟨a, by rw [orElse_apply, hp offset, Option.none_or, heq], ha⟩

theorem Fails.failure : Fails (failure : Reader α) text := fun _ => rfl

theorem Fails.bind_left {f : α → Reader β} (hp : Fails p text) : Fails (p >>= f) text := by
  intro offset
  rw [bind_apply, hp offset]
  rfl

theorem Fails.bind {f : α → Reader β} (hp : Reads p text rest expected)
    (hf : ∀ a, expected a → Fails (f a) rest) : Fails (p >>= f) (text ++ rest) := by
  intro offset
  obtain ⟨a, heq, ha⟩ := hp offset
  rw [bind_apply, heq]
  exact hf a ha _

theorem Fails.bind_right {f : α → Reader β} {a : α} (hp : Reads p text rest (Eq a))
    (hf : Fails (f a) rest) : Fails (p >>= f) (text ++ rest) :=
  Fails.bind hp fun _ heq => heq ▸ hf

theorem Fails.map {f : α → β} (hp : Fails p text) : Fails (f <$> p) text := by
  intro offset
  show (p ⟨text, offset⟩).bind _ = none
  rw [hp offset]
  rfl

theorem Fails.orElse (hp : Fails p text) (hq : Fails q text) : Fails (p <|> q) text := by
  intro offset
  rw [orElse_apply, hp offset, hq offset]
  rfl

theorem Reads.optional (hp : Reads p text rest expected) :
    Reads (optional p) text rest fun found => ∃ a, found = some a ∧ expected a :=
  Reads.orElse_left (hp.map fun a ha => ⟨a, rfl, ha⟩)

theorem Fails.optional (hp : Fails p rest) : Reads (optional p) [] rest (Eq none) :=
  Reads.orElse_right (Fails.map hp) (Reads.pure rfl)

/-! ### Characters -/

variable {test : Char → Bool} {c d : Char}

theorem Reads.next (h : test c = true) : Reads (next test) [c] rest (Eq c) := by
  intro offset
  refine ⟨c, ?_, rfl⟩
  show (if test c then _ else none) = _
  rw [if_pos h]
  rfl

theorem Fails.next (h : Stops test text) : Fails (next test) text := by
  intro offset
  cases text with
  | nil => rfl
  | cons c rest =>
    show (if test c then _ else none) = none
    rw [h c rfl, if_neg Bool.false_ne_true]

theorem Reads.char (c : Char) : Reads (char c) [c] rest (Eq ()) :=
  (Reads.next (decide_eq_true rfl)).next_step (.pure rfl)

theorem Fails.char (h : text.head? ≠ some c) : Fails (char c) text := by
  refine Fails.bind_left (Fails.next fun d hd => ?_)
  have hne : d ≠ c := by
    rintro rfl
    exact h hd
  simp [hne]

theorem Reads.chars (text : List Char) : Reads (chars text) text rest (Eq ()) := by
  induction text with
  | nil => exact .pure rfl
  | cons c text ih => exact (Reads.char c).next_step ih

theorem Reads.exactly {count : Nat} (hall : ∀ c ∈ text, test c = true)
    (hcount : text.length = count) : Reads (exactly test count) text rest (Eq text) := by
  induction text generalizing count with
  | nil =>
    subst hcount
    exact .pure rfl
  | cons c text ih =>
    subst hcount
    have htail := ih (fun d hd => hall d (List.mem_cons_of_mem c hd)) rfl
    exact (Reads.next (hall c List.mem_cons_self)).next_step
      (htail.last_step fun cs hcs => hcs ▸ .pure rfl)

/-- Too few characters that pass the test. -/
theorem Fails.exactly {count : Nat} (hall : ∀ c ∈ text, test c = true) (hstop : Stops test rest)
    (hcount : text.length < count) : Fails (exactly test count) (text ++ rest) := by
  induction text generalizing count with
  | nil =>
    obtain ⟨count, rfl⟩ := Nat.exists_eq_succ_of_ne_zero (Nat.ne_of_gt hcount)
    exact Fails.bind_left (Fails.next hstop)
  | cons c text ih =>
    obtain ⟨count, rfl⟩ := Nat.exists_eq_succ_of_ne_zero (Nat.ne_of_gt (Nat.zero_lt_of_lt hcount))
    have htail := ih (fun d hd => hall d (List.mem_cons_of_mem c hd))
      (Nat.lt_of_succ_lt_succ hcount)
    show Fails _ ([c] ++ (text ++ rest))
    exact Fails.bind_right (Reads.next (hall c List.mem_cons_self)) (Fails.bind_left htail)

theorem Reads.takeWhile (hall : ∀ c ∈ text, test c = true) (hstop : Stops test rest) :
    Reads (takeWhile test) text rest (Eq text) := by
  intro offset
  have htake : rest.takeWhile test = [] := by
    cases rest with
    | nil => rfl
    | cons c rest => simp [hstop c rfl]
  have hdrop : rest.dropWhile test = rest := by
    cases rest with
    | nil => rfl
    | cons c rest => simp [hstop c rfl]
  refine ⟨text, ?_, rfl⟩
  show some _ = _
  simp [List.takeWhile_append_of_pos hall, List.dropWhile_append_of_pos hall, htake, hdrop]

theorem Reads.sees {cs : List Char} {seen : Bool} (h : cs.isPrefixOf rest = seen) :
    Reads (sees cs) [] rest (Eq seen) := fun _ => ⟨_, rfl, h.symm⟩

theorem Reads.atEnd : Reads atEnd [] [] (Eq ()) := fun _ => ⟨(), rfl, rfl⟩

theorem Reads.spanned (hp : Reads p text rest expected) :
    Reads (spanned p) text rest fun found => expected found.2 := by
  intro offset
  obtain ⟨a, heq, ha⟩ := hp offset
  refine ⟨(⟨offset, offset + text.length⟩, a), ?_, ha⟩
  show (p ⟨text ++ rest, offset⟩).bind _ = _
  rw [heq]
  rfl

theorem Fails.spanned (hp : Fails p text) : Fails (spanned p) text := by
  intro offset
  show (p ⟨text, offset⟩).bind _ = none
  rw [hp offset]
  rfl

/-! ### Repetition -/

/-- A text in parts, each of which is read for one of the items, before what is not read. -/
inductive ReadsEach (p : Reader α) (relates : β → α → Prop) (rest : List Char) :
    List Char → List β → Prop
  | nil : Fails p rest → ReadsEach p relates rest [] []
  | cons {text more : List Char} {item : β} {items : List β} :
    text ≠ [] → Reads p text (more ++ rest) (relates item) →
      ReadsEach p relates rest more items → ReadsEach p relates rest (text ++ more) (item :: items)

variable {relates : β → α → Prop} {items : List β}

theorem ReadsEach.length_le (h : ReadsEach p relates rest text items) :
    items.length ≤ text.length := by
  induction h with
  | nil => exact Nat.le_refl 0
  | cons hne _ _ ih =>
    have := List.length_pos_of_ne_nil hne
    simp only [List.length_cons, List.length_append]
    omega

theorem ReadsEach.repeatUpTo {bound : Nat} (h : ReadsEach p relates rest text items)
    (hbound : items.length < bound) :
    Reads (repeatUpTo p bound) text rest (List.Forall₂ relates items) := by
  induction h generalizing bound with
  | nil hfails =>
    obtain ⟨bound, rfl⟩ := Nat.exists_eq_succ_of_ne_zero (Nat.ne_of_gt hbound)
    rw [Reader.repeatUpTo]
    exact (Fails.optional hfails).last_step fun _ hnone => hnone ▸ .pure .nil
  | @cons text more item items hne hitem _ ih =>
    obtain ⟨bound, rfl⟩ := Nat.exists_eq_succ_of_ne_zero (Nat.ne_of_gt (Nat.zero_lt_of_lt hbound))
    rw [Reader.repeatUpTo]
    refine (Reads.optional hitem).bind ?_
    rintro _ ⟨a, rfl, ha⟩
    have hmore := ih (Nat.lt_of_succ_lt_succ hbound)
    exact hmore.last_step fun as has => .pure (List.Forall₂.cons ha has)

theorem ReadsEach.many (h : ReadsEach p relates rest text items) :
    Reads (many p) text rest (List.Forall₂ relates items) := by
  intro offset
  have hlength := h.length_le
  have hbound : items.length < (text ++ rest).length + 1 := by
    rw [List.length_append]
    omega
  exact h.repeatUpTo hbound offset

/-- Parts that give the items themselves. -/
theorem ReadsEach.many_eq {items : List α} (h : ReadsEach p Eq rest text items) :
    Reads (Reader.many p) text rest (Eq items) :=
  h.many.imp fun _ hsame => by rwa [List.forall₂_eq_eq_eq] at hsame

theorem Reads.separated {separator : Char} {item : β}
    (hfirst : Reads p text (more ++ rest) (relates item))
    (hmore : ReadsEach (do Reader.char separator; p) relates rest more items) :
    Reads (separated p separator) (text ++ more) rest (List.Forall₂ relates (item :: items)) :=
  hfirst.bind fun _ ha => hmore.many.last_step fun _ has => .pure (.cons ha has)

/-! ### Blanks and line ends -/

theorem Reads.blanks (hall : ∀ c ∈ text, isBlank c = true) (hstop : Stops isBlank rest) :
    Reads blanks text rest (Eq ()) :=
  (Reads.takeWhile hall hstop).last_step fun _ _ => .pure rfl

theorem Reads.no_blanks (hstop : Stops isBlank rest) : Reads Reader.blanks [] rest (Eq ()) :=
  Reads.blanks (fun _ hc => nomatch hc) hstop

theorem Reads.newline : Reads newline ['\n'] rest (Eq ()) := Reads.orElse_left (Reads.char '\n')

theorem Fails.newline (hline : text.head? ≠ some '\n') (hreturn : text.head? ≠ some '\r') :
    Fails newline text :=
  Fails.orElse (Fails.char hline) (Fails.bind_left (Fails.char hreturn))

theorem Reads.lineEnd : Reads lineEnd ['\n'] rest (Eq ()) := by
  have hcomment : Fails comment ('\n' :: rest) := Fails.bind_left (Fails.char (by simp))
  exact Reads.next_step (Reads.no_blanks (stops_cons rfl))
    (Reads.next_step (Fails.optional hcomment) (Reads.orElse_left Reads.newline))

end Preferences.Toml.Reader
