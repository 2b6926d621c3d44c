import Preferences.Proofs.Contents
import Preferences.Proofs.Multiline
import Preferences.Proofs.Numerals
import Preferences.Snapshot.Read

/-! Values that read back as themselves. Each is read by the rule for its kind: no rule that comes
before that one reads its text. -/

namespace Preferences.Toml

open Preferences.Number Reader

/-! ### Digits -/

/-- What stops digits. -/
def digitOrMark (base : Nat) (c : Char) : Bool := isDigitOf base c || c = '_'

theorem reads_digitRun {base : Nat} {ds rest : List Char} (hne : ds ≠ [])
    (hall : ∀ c ∈ ds, isDigitOf base c = true) (hstop : Stops (digitOrMark base) rest) :
    Reads (digitRun base) ds rest (Eq ds) := by
  obtain ⟨d, tail, rfl⟩ := List.exists_cons_of_ne_nil hne
  have hfails : Fails (next (isDigitOf base) <|> (do char '_'; next (isDigitOf base))) rest := by
    refine Fails.orElse (Fails.next fun c hc => ?_) (Fails.bind_left (Fails.char fun heq => ?_))
    · exact (Bool.or_eq_false_iff.1 (hstop c hc)).1
    · simpa [digitOrMark] using hstop '_' heq
  have hother : ReadsEach (next (isDigitOf base) <|> (do char '_'; next (isDigitOf base))) Eq rest
      tail tail := by
    have htail : ∀ c ∈ tail, isDigitOf base c = true := fun c hc =>
      hall c (List.mem_cons_of_mem d hc)
    clear hall
    induction tail with
    | nil => exact .nil hfails
    | cons c tail ih =>
      have hmore := ih (List.cons_ne_nil d tail) fun e he => htail e (List.mem_cons_of_mem c he)
      exact .cons (List.cons_ne_nil c [])
        (Reads.orElse_left (Reads.next (htail c List.mem_cons_self))) hmore
  refine (Reads.next (hall d List.mem_cons_self)).next_step (hother.many_eq.last_step ?_)
  rintro _ rfl
  exact .pure rfl

theorem reads_wholeDigits {ds rest : List Char} (hds : IsWhole ds)
    (hstop : Stops (digitOrMark 10) rest) : Reads wholeDigits ds rest (Eq ds) := by
  rcases hds.lead with rfl | ⟨hne, hhead⟩
  · have hzero : Reads (exactly (· = '0') 1) ['0'] rest (Eq ['0']) :=
      Reads.exactly (by simp) rfl
    show Reads _ ([] ++ ['0']) rest _
    exact (Reads.sees rfl).next_step hzero
  · have hseen : ['0'].isPrefixOf (ds ++ rest) = false := by
      obtain ⟨d, tail, rfl⟩ := List.exists_cons_of_ne_nil hne
      have hd : d ≠ '0' := by simpa using hhead
      simp [List.isPrefixOf, Ne.symm hd]
    show Reads _ ([] ++ ds) rest _
    exact (Reads.sees hseen).next_step
      (reads_digitRun hne (fun c hc => isDigitOf_ten (hds.digits c hc)) hstop)

/-! ### Signs -/

def isSign (c : Char) : Bool := c = '-' || c = '+'

theorem reads_sign (negative : Bool) {rest : List Char} (hstop : Stops isSign rest) :
    Reads sign (signText negative) rest (Eq negative) := by
  have hother {c : Char} (hc : isSign c = true) : rest.head? ≠ some c := by
    intro heq
    simp [hstop c heq] at hc
  cases negative with
  | true => exact Reads.orElse_left ((Reads.char '-').last_step fun _ _ => .pure rfl)
  | false =>
    exact Reads.orElse_right (Fails.bind_left (Fails.char (hother rfl)))
      (Reads.orElse_right (Fails.bind_left (Fails.char (hother rfl))) (.pure rfl))

/-- Digits are no sign. -/
theorem stops_isSign {ds : List Char} (hds : IsWhole ds) (rest : List Char) :
    Stops isSign (ds ++ rest) := by
  obtain ⟨d, tail, rfl, hd⟩ := hds.exists_cons
  refine stops_cons ?_
  cases hsign : isSign d with
  | false => rfl
  | true =>
    simp only [isSign, Bool.or_eq_true, decide_eq_true_eq] at hsign
    rcases hsign with rfl | rfl <;> exact absurd hd (by decide)

/-! ### Numbers with a point -/

section Numbers

variable {ds behind : List Char} (negative : Bool) (hds : IsWhole ds) (more : List Char)

include hds

theorem reads_decimalFloat (hne : behind ≠ []) (hbehind : AllDigits behind)
    (hfinite : Double.ofDecimal negative ⟨ofDigits 10 (ds ++ behind), -behind.length⟩ ≠
      .infinite false) :
    Reads decimalFloat (signText negative ++ (ds ++ '.' :: behind)) ('\n' :: more)
      (Eq (.ofDecimal negative ⟨ofDigits 10 (ds ++ behind), -behind.length⟩)) := by
  have hfraction : Reads (do char '.'; digitRun 10) ('.' :: behind) ('\n' :: more) (Eq behind) :=
    (Reads.char '.').next_step
      (reads_digitRun hne (fun c hc => isDigitOf_ten (hbehind c hc)) (stops_cons rfl))
  refine (reads_sign negative (by simpa using stops_isSign hds _)).next_step ?_
  refine (reads_wholeDigits hds (stops_cons rfl)).next_step ?_
  refine (Reads.optional hfraction).last_step ?_
  rintro _ ⟨_, rfl, rfl⟩
  refine (Fails.optional (Fails.bind_left (Fails.next (stops_cons rfl)))).last_step ?_
  rintro _ rfl
  simp only [Option.isNone_some, Bool.false_and, Bool.false_eq_true, if_false, Option.getD_some,
    Option.getD_none, Int.zero_sub, hfinite]
  exact .pure rfl

/-- A whole number has neither a point nor an exponent. -/
theorem fails_decimalFloat :
    Fails decimalFloat (signText negative ++ (ds ++ '\n' :: more)) := by
  refine Fails.bind_right (reads_sign negative (stops_isSign hds _)) ?_
  refine Fails.bind_right (reads_wholeDigits hds (stops_cons rfl)) ?_
  have hfraction : Reads (optional (do char '.'; digitRun 10)) [] ('\n' :: more) (Eq none) :=
    Fails.optional (Fails.bind_left (Fails.char (by simp)))
  have hexponent : Fails (next fun c => decide (c = 'e') || decide (c = 'E'))
      ('\n' :: more) := Fails.next (stops_cons rfl)
  show Fails _ ([] ++ ([] ++ '\n' :: more))
  refine Fails.bind_right hfraction ?_
  refine Fails.bind_right (Fails.optional (Fails.bind_left hexponent)) ?_
  exact Fails.bind_left Fails.failure

theorem fails_specialFloat (rest : List Char) :
    Fails specialFloat (signText negative ++ (ds ++ rest)) := by
  refine Fails.bind_right (reads_sign negative (stops_isSign hds _)) ?_
  have hletter {c : Char} (hc : c.isDigit = false) : (ds ++ rest).head? ≠ some c := by
    obtain ⟨d, tail, rfl, hd⟩ := hds.exists_cons
    rintro ⟨⟩
    simp [hd] at hc
  exact Fails.orElse (Fails.bind_left (Fails.bind_left (Fails.char (hletter rfl))))
    (Fails.bind_left (Fails.bind_left (Fails.char (hletter rfl))))

/-! ### Whole numbers -/

theorem fails_basedInteger {mark : Char} (hmark : mark ≠ '\n') (base : Nat) :
    Fails (basedInteger mark base) (signText negative ++ (ds ++ '\n' :: more)) := by
  refine Fails.bind_left ?_
  cases negative with
  | true => exact Fails.bind_left (Fails.char (by simp [signText]))
  | false =>
    rcases hds.lead with rfl | ⟨hne, hhead⟩
    · show Fails _ (['0'] ++ '\n' :: more)
      exact Fails.bind_right (Reads.char '0')
        (Fails.bind_left (Fails.char (by simpa using hmark.symm)))
    · refine Fails.bind_left (Fails.char ?_)
      rwa [signText, if_neg Bool.false_ne_true, List.nil_append, List.head?_append_of_ne_nil ds hne]

theorem reads_integer
    (hbounds : Int64.minValue.toInt ≤ signed negative (ofDigits 10 ds) ∧
      signed negative (ofDigits 10 ds) ≤ Int64.maxValue.toInt) :
    Reads integer (signText negative ++ ds) ('\n' :: more)
      (Eq (signed negative (ofDigits 10 ds))) := by
  have hread : Reads (do return signed (← sign) (ofDigits 10 (← wholeDigits)))
      (signText negative ++ ds) ('\n' :: more) (Eq (signed negative (ofDigits 10 ds))) := by
    refine (reads_sign negative (stops_isSign hds _)).next_step ?_
    refine (reads_wholeDigits hds (stops_cons rfl)).last_step ?_
    rintro _ rfl
    exact .pure rfl
  have hbased {mark : Char} (hmark : mark ≠ '\n') (base : Nat) :
      Fails (basedInteger mark base) (signText negative ++ ds ++ '\n' :: more) := by
    rw [List.append_assoc]
    exact fails_basedInteger negative hds more hmark base
  refine (Reads.orElse_right (hbased (by decide) 16) (Reads.orElse_right (hbased (by decide) 8)
    (Reads.orElse_right (hbased (by decide) 2) hread))).last_step ?_
  rintro _ rfl
  rw [if_pos hbounds]
  exact .pure rfl

end Numbers

/-! ### Dates -/

section Dates

variable {ds rest : List Char} {c mark : Char}

/-- A reader of so many digits, which may refuse some of them. -/
structure ReadsDigits (p : Reader (List Char)) (width : Nat) : Prop where
  short : ∀ {ds rest : List Char}, AllDigits ds → Stops Char.isDigit rest → ds.length < width →
    Fails p (ds ++ rest)
  exact : ∀ {ds rest : List Char}, AllDigits ds → ds.length = width →
    Fails p (ds ++ rest) ∨ Reads p ds rest fun _ => True

theorem readsDigits_exactly (width : Nat) : ReadsDigits (exactly Char.isDigit width) width where
  short hds hstop hlt := Fails.exactly hds hstop hlt
  exact hds heq := .inr ((Reads.exactly hds heq).imp fun _ _ => trivial)

theorem readsDigits_field (width least greatest : Nat) :
    ReadsDigits (field width least greatest) width where
  short hds hstop hlt := Fails.bind_left (Fails.exactly hds hstop hlt)
  exact {ds rest} hds heq := by
    have hread : Reads (exactly Char.isDigit width) ds rest (Eq ds) := Reads.exactly hds heq
    by_cases hbounds : least ≤ ofDigits 10 ds ∧ ofDigits 10 ds ≤ greatest
    · refine .inr (hread.last_step ?_)
      rintro _ rfl
      rw [if_pos hbounds]
      exact .pure trivial
    · refine .inl (Fails.bind_right hread ?_)
      rw [if_neg hbounds]
      exact Fails.failure

/-- No mark stands behind so many digits where all digits end with something else. -/
theorem ReadsDigits.fails_mark {p : Reader (List Char)} {width : Nat} (hp : ReadsDigits p width)
    {f : List Char → Unit → Reader β} (hds : AllDigits ds) (hc : c.isDigit = false)
    (hdigit : mark.isDigit = false) (hmark : c ≠ mark ∨ ds.length < width) :
    Fails (do let found ← p; let u ← char mark; f found u) (ds ++ c :: rest) := by
  rcases Nat.lt_or_ge ds.length width with hlt | hge
  · exact Fails.bind_left (hp.short hds (stops_cons hc) hlt)
  · have htake : AllDigits (ds.take width) := fun d hd => hds d (List.mem_of_mem_take hd)
    have hlength : (ds.take width).length = width := by
      rw [List.length_take]
      omega
    have hnext : (ds.drop width ++ c :: rest).head? ≠ some mark := by
      cases hdrop : ds.drop width with
      | nil => simpa using hmark.resolve_right (by omega)
      | cons d tail =>
        have hmem : d ∈ ds.drop width := hdrop ▸ List.mem_cons_self
        have hd : d.isDigit = true := hds d (List.mem_of_mem_drop hmem)
        rintro ⟨⟩
        simp [hd] at hdigit
    have hsplit : ds ++ c :: rest = ds.take width ++ (ds.drop width ++ c :: rest) := by
      rw [← List.append_assoc, List.take_append_drop]
    rw [hsplit]
    rcases hp.exact htake hlength with hfails | hreads
    · exact Fails.bind_left hfails
    · exact Fails.bind hreads fun _ _ => Fails.bind_left (Fails.char hnext)

/-- What begins with digits is no date if the digits end with something else than a mark. -/
theorem fails_date (hds : AllDigits ds) (hc : c.isDigit = false) (hcolon : c ≠ ':')
    (hdash : c ≠ '-' ∨ ds = []) : Fails date (ds ++ c :: rest) := by
  have hshort : c ≠ '-' ∨ ds.length < 4 := hdash.imp_right fun hnil => by simp [hnil]
  exact Fails.orElse
    (Fails.bind_left ((readsDigits_exactly 4).fails_mark hds hc rfl hshort))
    (Fails.map ((readsDigits_field 2 0 23).fails_mark hds hc rfl (.inl hcolon)))

end Dates

/-! ### Scalars -/

theorem fails_string {c : Char} (hdouble : c ≠ '"') (hsingle : c ≠ '\'') (rest : List Char) :
    Fails Toml.string (c :: rest) := by
  have hfirst {quote : Char} (hne : c ≠ quote) : (c :: rest).head? ≠ some quote := by
    simpa using hne
  exact Fails.orElse (Fails.bind_left (Fails.bind_left (Fails.char (hfirst hdouble))))
    (Fails.orElse (Fails.bind_left (Fails.char (hfirst hdouble)))
      (Fails.orElse (Fails.bind_left (Fails.bind_left (Fails.char (hfirst hsingle))))
        (Fails.bind_left (Fails.char (hfirst hsingle)))))

/-- A number is neither a string nor a date. -/
theorem fails_before_number (negative : Bool) {ds : List Char} {c : Char} (hds : IsWhole ds)
    (rest : List Char) (hc : c.isDigit = false) (hcolon : c ≠ ':') (hdash : c ≠ '-') :
    Fails Toml.string (signText negative ++ (ds ++ c :: rest)) ∧
      Fails date (signText negative ++ (ds ++ c :: rest)) := by
  cases negative with
  | true =>
    refine ⟨fails_string (by decide) (by decide) _, ?_⟩
    show Fails date ([] ++ '-' :: (ds ++ c :: rest))
    exact fails_date (fun _ hd => nomatch hd) rfl (by decide) (.inr rfl)
  | false =>
    refine ⟨?_, fails_date hds.digits hc hcolon (.inl hdash)⟩
    obtain ⟨d, tail, rfl, hd⟩ := hds.exists_cons
    refine fails_string ?_ ?_ _ <;> rintro rfl <;> exact absurd hd (by decide)

end Preferences.Toml

namespace Preferences.Store

/-- Whether two values are the same bit for bit, or else are both no number. -/
def Value.Same (a b : Value) : Prop := a = b ∨ a.isNaN = true ∧ b.isNaN = true

end Preferences.Store

namespace Preferences.Snapshot

open Preferences.Number Preferences.Store Preferences.Toml Preferences.Toml.Reader

/-- A node that is taken for the value, or for one that is the same. -/
def Holds (v : Value) (node : Node) : Prop :=
  ∃ back, v.Same back ∧ valueOf v.kind node = .ok back

/-- Nodes that hold the value, wherever they stand. -/
def Restores (v : Value) (make : Span → Node) : Prop := ∀ span, Holds v (make span)

variable {more : List Char}

theorem reads_scalar_string (s : String) :
    Reads scalar (stringText s).toList ('\n' :: more) (Restores (.string s)) := by
  have hread := reads_stringText s (stops_cons rfl : Stops (· = '"') ('\n' :: more))
    (stops_cons rfl)
  refine Reads.orElse_left (hread.last_step ?_)
  rintro _ rfl
  exact .pure fun _ => ⟨.string s, .inl rfl, rfl⟩

theorem reads_scalar_boolean (b : Bool) :
    Reads scalar (valueText (.boolean b)).toList ('\n' :: more) (Restores (.boolean b)) := by
  cases b
  · exact fun _ => ⟨_, rfl, fun _ => ⟨.boolean false, .inl rfl, rfl⟩⟩
  · exact fun _ => ⟨_, rfl, fun _ => ⟨.boolean true, .inl rfl, rfl⟩⟩

theorem toList_toString (n : Int) :
    (toString n).toList = signText (n < 0) ++ Nat.toDigits 10 n.natAbs := by
  rw [Int.toString_eq_repr, Int.repr_eq_if]
  by_cases hneg : n < 0
  · have habs : (-n).toNat = n.natAbs := by omega
    rw [if_neg (by omega), habs]
    simp [signText, hneg]
  · have habs : n.toNat = n.natAbs := by omega
    rw [if_pos (by omega), habs]
    simp [signText, hneg]

theorem signed_natAbs (n : Int) : signed (n < 0) n.natAbs = n := by
  unfold signed
  by_cases hneg : n < 0
  · rw [decide_eq_true hneg, if_pos rfl]
    omega
  · rw [decide_eq_false hneg, if_neg Bool.false_ne_true]
    omega

/-- A whole number of at most 64 bits is read as an integer. -/
theorem reads_scalar_integer {n : Int} {v : Value}
    (hbounds : Int64.minValue.toInt ≤ n ∧ n ≤ Int64.maxValue.toInt)
    (hvalue : ∀ span, valueOf v.kind (.integer span n) = .ok v) :
    Reads scalar (toString n).toList ('\n' :: more) (Restores v) := by
  have hds := isWhole_toDigits n.natAbs
  have hn : signed (n < 0) (ofDigits 10 (Nat.toDigits 10 n.natAbs)) = n := by
    rw [ofDigits_toDigits, signed_natAbs]
  have hread : Reads integer (toString n).toList ('\n' :: more) (Eq n) := by
    have h := reads_integer (n < 0) hds more (by rwa [hn])
    rwa [hn, ← toList_toString] at h
  have htext : (toString n).toList ++ '\n' :: more =
      signText (n < 0) ++ (Nat.toDigits 10 n.natAbs ++ '\n' :: more) := by
    rw [toList_toString, List.append_assoc]
  obtain ⟨hstring, hdate⟩ := fails_before_number (n < 0) hds more
    (show '\n'.isDigit = false by decide) (by decide) (by decide)
  rw [← htext] at hstring hdate
  have hfloat : Fails (decimalFloat <|> specialFloat) ((toString n).toList ++ '\n' :: more) := by
    rw [htext]
    exact Fails.orElse (fails_decimalFloat _ hds more) (fails_specialFloat _ hds _)
  refine Reads.orElse_right (Fails.bind_left hstring)
    (Reads.orElse_right (Fails.bind_left hdate)
      (Reads.orElse_right (Fails.bind_left hfloat) (Reads.orElse_left (hread.last_step ?_))))
  rintro _ rfl
  exact .pure fun span => ⟨v, .inl rfl, hvalue span⟩

/-! ### Floats -/

/-- A finite number of 64 bits is read as what its shortest decimal means. -/
theorem reads_scalar_decimal (negative : Bool) {x y : Magnitude}
    (hmeans : ∀ d : Decimal, d.value = (shortest .double x).value →
      Double.ofDecimal negative d = .finite negative y) :
    Reads scalar (Double.finite negative x).pointText.toList ('\n' :: more)
      fun make => ∀ span, make span = .float span (.finite negative y) := by
  obtain ⟨before, behind, htext, hne, hposition⟩ := Double.pointText_finite negative x
  have hmeans' := hmeans _ hposition.value
  have hread := reads_decimalFloat negative hposition.whole more hne hposition.digits
    (by simp [hmeans'])
  rw [hmeans'] at hread
  obtain ⟨hstring, hdate⟩ := fails_before_number negative hposition.whole
    (behind ++ '\n' :: more) (show '.'.isDigit = false by decide) (by decide) (by decide)
  rw [htext]
  have happend : signText negative ++ (before ++ '.' :: behind) ++ '\n' :: more =
      signText negative ++ (before ++ '.' :: (behind ++ '\n' :: more)) := by simp
  refine Reads.orElse_right (Fails.bind_left ?_) (Reads.orElse_right (Fails.bind_left ?_)
    (Reads.orElse_left ((Reads.orElse_left hread).last_step ?_)))
  · rwa [happend]
  · rwa [happend]
  · rintro _ rfl
    exact .pure fun _ => rfl

theorem floatText_finite {x : Binary32} {negative : Bool} {y : Magnitude}
    (h : Double.ofBinary32 x = .finite negative y) :
    floatText x = (Double.finite negative y).pointText := by
  rw [floatText, h]

theorem reads_scalar_finite {x : Binary32} {y z : Magnitude}
    (hwide : Double.ofBinary32 x = .finite x.isNegative y)
    (hmeans : ∀ d : Decimal, d.value = (shortest .double y).value →
      Double.ofDecimal x.isNegative d = .finite x.isNegative z)
    (hnarrow : Binary32.ofDouble (.finite x.isNegative z) = x) :
    Reads scalar (floatText x).toList ('\n' :: more) (Restores (.float x)) := by
  rw [floatText_finite hwide]
  refine (reads_scalar_decimal x.isNegative hmeans).imp fun make hmake span => ?_
  refine ⟨.float x, .inl rfl, ?_⟩
  rw [hmake]
  show Except.ok (Value.float (Binary32.ofDouble _)) = _
  rw [hnarrow]

theorem floatText_nan {x : Binary32} (hnan : x.isNaN = true) : floatText x = "nan" := by
  rw [floatText, Binary32.widen_nan hnan]

theorem reads_scalar_nan {x : Binary32} (hnan : x.isNaN = true) :
    Reads scalar (floatText x).toList ('\n' :: more) (Restores (.float x)) := by
  rw [floatText_nan hnan]
  exact fun _ => ⟨_, rfl, fun _ => ⟨.float (.ofMagnitude false Binary32.plainNaN),
    .inr ⟨hnan, Binary32.isNaN_ofMagnitude_plainNaN false⟩, rfl⟩⟩

theorem reads_scalar_infinite {x : Binary32} (hinfinite : x.magnitude = Binary32.infinity) :
    Reads scalar (floatText x).toList ('\n' :: more) (Restores (.float x)) := by
  have hnarrow : Binary32.ofDouble (.infinite x.isNegative) = x := by
    rw [Binary32.ofDouble, ← hinfinite, Binary32.ofMagnitude_self]
  have htext : floatText x = (Double.infinite x.isNegative).pointText := by
    rw [floatText, Binary32.widen_infinite hinfinite]
  rw [htext]
  have hread : Reads scalar (Double.infinite x.isNegative).pointText.toList ('\n' :: more)
      fun make => ∀ span, make span = .float span (.infinite x.isNegative) := by
    cases x.isNegative
    · exact fun _ => ⟨_, rfl, fun _ => rfl⟩
    · exact fun _ => ⟨_, rfl, fun _ => rfl⟩
  refine hread.imp fun make hmake span => ⟨.float x, .inl rfl, ?_⟩
  rw [hmake]
  show Except.ok (Value.float (Binary32.ofDouble _)) = _
  rw [hnarrow]

theorem Decimal.digits_of_value_eq_zero {d : Decimal} (h : d.value = 0) : d.digits = 0 := by
  have hten := (ten_zpow_pos d.exponent).ne'
  simpa [Decimal.value, hten] using h

theorem reads_scalar_float (x : Binary32) :
    Reads scalar (floatText x).toList ('\n' :: more) (Restores (.float x)) := by
  rcases Nat.lt_trichotomy x.magnitude Binary32.infinity with hfinite | hinfinite | hnan
  · rcases Nat.eq_zero_or_pos x.magnitude with hzero | hpos
    · obtain ⟨e, hwide⟩ := Binary32.widen_zero hzero
      refine reads_scalar_finite hwide (fun d hd => ?_) (Binary32.ofDouble_zero hzero)
      have hdigits : d.digits = 0 := by
        refine Decimal.digits_of_value_eq_zero (hd.trans ?_)
        simp [shortest, Decimal.value]
      rw [Double.ofDecimal, if_pos (.inl hdigits)]
    · obtain ⟨y, hy, hypos, hwide, hnarrow⟩ := Binary32.widen_pos hpos hfinite
      refine reads_scalar_finite hwide (fun d hd => ?_) hnarrow
      refine Double.ofDecimal_eq _ hy hypos ?_
      rw [hd]
      exact shortest_covers (by decide) hy hypos
  · exact reads_scalar_infinite hinfinite
  · exact reads_scalar_nan (by simpa [Binary32.isNaN] using hnan)

/-! ### Values -/

/-- A value is read as itself, whatever its kind. -/
theorem reads_scalar (v : Value) (more : List Char) :
    Reads scalar (valueText v).toList ('\n' :: more) (Restores v) := by
  cases v with
  | boolean b => exact reads_scalar_boolean b
  | float x => exact reads_scalar_float x
  | integer n =>
    have hlow := n.minValue_le_toInt
    have hhigh := n.toInt_le
    have hmin : Int64.minValue.toInt ≤ Int32.minValue.toInt := by decide
    have hmax : Int32.maxValue.toInt ≤ Int64.maxValue.toInt := by decide
    refine reads_scalar_integer ⟨hmin.trans hlow, hhigh.trans hmax⟩ fun span => ?_
    show (if _ then Except.ok (Value.integer (Int32.ofInt n.toInt)) else _) = _
    rw [if_pos ⟨hlow, hhigh⟩, Int32.ofInt_toInt]
  | long n =>
    refine reads_scalar_integer ⟨n.minValue_le_toInt, n.toInt_le⟩ fun span => ?_
    show Except.ok (Value.long (Int64.ofInt n.toInt)) = _
    rw [Int64.ofInt_toInt]
  | string s => exact reads_scalar_string s

end Preferences.Snapshot
