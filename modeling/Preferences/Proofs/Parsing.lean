import Preferences.Proofs.Members

/-! Parsers that succeed: what the cursor of each small parser has in front of it then, and what is
left. -/

namespace Preferences.Source.Parser

open Preferences.Schema

variable {cursor after : Cursor} {trees : List Tree} {stop : Position}
  {surplus : Option SyntaxError}

theorem bind_eq_ok {p : Parser α} {f : α → Parser β} {b : β} :
    (p >>= f) cursor = .ok (b, after) ↔
      ∃ a between, p cursor = .ok (a, between) ∧ f a between = .ok (b, after) := by
  constructor
  · intro h
    obtain ⟨⟨a, between⟩, hfirst, hsecond⟩ := ok_of_bind h
    exact ⟨a, between, hfirst, hsecond⟩
  · rintro ⟨a, between, hfirst, hsecond⟩
    show (p cursor >>= fun entry => f entry.1 entry.2) = _
    rw [hfirst]
    exact hsecond

theorem pure_eq_ok {a b : α} :
    (pure a : Parser α) cursor = .ok (b, after) ↔ a = b ∧ cursor = after := by
  show Except.ok (a, cursor) = _ ↔ _
  simp

theorem failAt_ne_ok {pos : Position} {cause : SyntaxError.Cause} {a : α} :
    failAt pos cause cursor ≠ .ok (a, after) := nofun

theorem fail_ne_ok {cause : SyntaxError.Cause} {a : α} : fail cause cursor ≠ .ok (a, after) := nofun

theorem failWanting_ne_ok {wanted : List Wanted} {a : α} :
    failWanting wanted cursor ≠ .ok (a, after) := nofun

theorem rest_eq_ok {found : List Tree} :
    rest cursor = .ok (found, after) ↔ cursor.rest = found ∧ cursor = after :=
  pure_eq_ok

theorem sees_eq_ok {test : List Tree → Bool} {found : Bool} :
    sees test cursor = .ok (found, after) ↔ test cursor.rest = found ∧ cursor = after :=
  pure_eq_ok

theorem here_eq_ok {pos : Position} : here cursor = .ok (pos, after) ↔
    (cursor.rest.head?.map Tree.pos).getD cursor.stop = pos ∧ cursor = after :=
  pure_eq_ok

theorem drop_eq_ok {count : Nat} {u : Unit} : drop count ⟨trees, stop, surplus⟩ = .ok (u, after) ↔
    ⟨trees.drop count, stop, surplus⟩ = after := by
  show Except.ok ((), _) = _ ↔ _
  simp

/-- A value that is known once some trees are dropped. -/
theorem drop_pure_eq_ok {count : Nat} {a b : α} :
    (do drop count; pure a : Parser α) ⟨trees, stop, surplus⟩ = .ok (b, after) ↔
      a = b ∧ ⟨trees.drop count, stop, surplus⟩ = after := by
  simp only [bind_eq_ok, drop_eq_ok, pure_eq_ok]
  constructor
  · rintro ⟨_, _, rfl, hvalue, hafter⟩
    exact ⟨hvalue, hafter⟩
  · rintro ⟨hvalue, hafter⟩
    exact ⟨(), _, rfl, hvalue, hafter⟩

theorem startsSymbol_single {c : Char} :
    startsSymbol [c] trees = true ↔ ∃ joint pos rest, trees = .punct c joint pos :: rest := by
  constructor
  · intro h
    rcases trees with _ | ⟨_ | ⟨d, joint, pos⟩ | _ | _, rest⟩ <;> simp [startsSymbol] at h
    subst h
    exact ⟨joint, pos, rest, rfl⟩
  · rintro ⟨joint, pos, rest, rfl⟩
    simp [startsSymbol]

theorem startsSymbol_pair {c d : Char} : startsSymbol [c, d] trees = true ↔
    ∃ pos joint pos' rest, trees = .punct c true pos :: .punct d joint pos' :: rest := by
  constructor
  · intro h
    rcases trees with _ | ⟨_ | ⟨c', joint, pos⟩ | _ | _, rest⟩ <;> simp [startsSymbol] at h
    obtain ⟨⟨rfl, rfl⟩, hrest⟩ := h
    obtain ⟨joint, pos', rest, rfl⟩ := startsSymbol_single.1 hrest
    exact ⟨pos, joint, pos', rest, rfl⟩
  · rintro ⟨pos, joint, pos', rest, rfl⟩
    simp [startsSymbol]

theorem symbol_eq_ok {text : String} {u : Unit} :
    symbol text ⟨trees, stop, surplus⟩ = .ok (u, after) ↔
      startsSymbol text.toList trees = true ∧
        ⟨trees.drop text.toList.length, stop, surplus⟩ = after := by
  unfold symbol
  simp only [bind_eq_ok, seesSymbol, sees_eq_ok, String.length_toList]
  constructor
  · rintro ⟨found, _, ⟨hfound, rfl⟩, h⟩
    split at h
    · exact ⟨hfound.trans ‹_›, drop_eq_ok.1 h⟩
    · obtain ⟨_, _, -, h⟩ := bind_eq_ok.1 h
      exact absurd h failAt_ne_ok
  · rintro ⟨hstarts, rfl⟩
    refine ⟨true, _, ⟨hstarts, rfl⟩, ?_⟩
    rw [if_pos rfl]
    exact drop_eq_ok.2 rfl

/-- A symbol of one character is read whatever stands joined to it. -/
theorem symbol_single_eq_ok {text : String} {c : Char} {u : Unit} (htext : text.toList = [c]) :
    symbol text ⟨trees, stop, surplus⟩ = .ok (u, after) ↔ ∃ joint pos rest,
      trees = .punct c joint pos :: rest ∧ ⟨rest, stop, surplus⟩ = after := by
  rw [symbol_eq_ok, htext, startsSymbol_single]
  constructor
  · rintro ⟨⟨joint, pos, rest, rfl⟩, rfl⟩
    exact ⟨joint, pos, rest, rfl, rfl⟩
  · rintro ⟨joint, pos, rest, rfl, rfl⟩
    exact ⟨⟨joint, pos, rest, rfl⟩, rfl⟩

/-- The characters of a symbol stand joined. -/
theorem symbol_pair_eq_ok {text : String} {c d : Char} {u : Unit} (htext : text.toList = [c, d]) :
    symbol text ⟨trees, stop, surplus⟩ = .ok (u, after) ↔ ∃ pos joint pos' rest,
      trees = .punct c true pos :: .punct d joint pos' :: rest ∧ ⟨rest, stop, surplus⟩ = after := by
  rw [symbol_eq_ok, htext, startsSymbol_pair]
  constructor
  · rintro ⟨⟨pos, joint, pos', rest, rfl⟩, rfl⟩
    exact ⟨pos, joint, pos', rest, rfl, rfl⟩
  · rintro ⟨pos, joint, pos', rest, rfl, rfl⟩
    exact ⟨⟨pos, joint, pos', rest, rfl⟩, rfl⟩

/-- A symbol that may stand next is passed over if another tree does. -/
theorem symbol?_eq_false {text : String} :
    symbol? text ⟨trees, stop, surplus⟩ = .ok (false, after) ↔
      startsSymbol text.toList trees = false ∧ ⟨trees, stop, surplus⟩ = after := by
  unfold symbol?
  simp only [bind_eq_ok, seesSymbol, sees_eq_ok]
  constructor
  · rintro ⟨found, _, ⟨hfound, rfl⟩, h⟩
    cases found with
    | true => cases (drop_pure_eq_ok.1 h).1
    | false => exact ⟨hfound, (pure_eq_ok.1 h).2⟩
  · rintro ⟨hfound, rfl⟩
    exact ⟨false, _, ⟨hfound, rfl⟩, pure_eq_ok.2 ⟨rfl, rfl⟩⟩

theorem anyName_eq_ok {name : Name} : anyName ⟨trees, stop, surplus⟩ = .ok (name, after) ↔
    ∃ rest, trees = .ident name :: rest ∧ ⟨rest, stop, surplus⟩ = after := by
  unfold anyName
  simp only [bind_eq_ok, rest_eq_ok]
  constructor
  · rintro ⟨found, _, ⟨hfound, rfl⟩, h⟩
    split at h
    · rename_i rest
      obtain rfl : trees = _ := hfound
      obtain ⟨rfl, rfl⟩ := drop_pure_eq_ok.1 h
      exact ⟨rest, rfl, rfl⟩
    · exact absurd h failWanting_ne_ok
  · rintro ⟨rest, rfl, rfl⟩
    exact ⟨_, _, ⟨rfl, rfl⟩, drop_pure_eq_ok.2 ⟨rfl, rfl⟩⟩

theorem stringLiteral_eq_ok {lit : TextLiteral} :
    stringLiteral ⟨trees, stop, surplus⟩ = .ok (lit, after) ↔ ∃ text pos rest,
      trees = .literal text pos :: rest ∧ TextLiteral.ofSpelling? text pos = some lit ∧
        ⟨rest, stop, surplus⟩ = after := by
  unfold stringLiteral
  simp only [bind_eq_ok, rest_eq_ok]
  constructor
  · rintro ⟨found, _, ⟨hfound, rfl⟩, h⟩
    split at h
    · rename_i text pos rest
      obtain rfl : trees = _ := hfound
      cases hlit : TextLiteral.ofSpelling? text pos with
      | none =>
        simp only [hlit] at h
        exact absurd h failWanting_ne_ok
      | some lit =>
        simp only [hlit] at h
        obtain ⟨rfl, rfl⟩ := drop_pure_eq_ok.1 h
        exact ⟨text, pos, rest, rfl, hlit, rfl⟩
    · exact absurd h failWanting_ne_ok
  · rintro ⟨text, pos, rest, rfl, hlit, rfl⟩
    refine ⟨_, _, ⟨rfl, rfl⟩, ?_⟩
    simp only [hlit]
    exact drop_pure_eq_ok.2 ⟨rfl, rfl⟩

/-- Nothing is repeated where the test fails at once. -/
theorem manyWhile_eq_nil {test : List Tree → Bool} {item : Parser α} :
    manyWhile test item cursor = .ok ([], after) ↔
      test cursor.rest = false ∧ cursor = after := by
  unfold manyWhile many
  simp only [bind_eq_ok, rest_eq_ok, repeatUpTo, sees_eq_ok]
  constructor
  · rintro ⟨_, _, ⟨-, rfl⟩, step, between, ⟨found, _, ⟨hfound, rfl⟩, hstep⟩, h⟩
    cases step with
    | none =>
      split at hstep
      · rw [map_eq_pure_bind] at hstep
        obtain ⟨_, _, -, hpure⟩ := bind_eq_ok.1 hstep
        cases (pure_eq_ok.1 hpure).1
      · rename_i hnot
        obtain ⟨-, rfl⟩ := pure_eq_ok.1 hstep
        obtain ⟨-, rfl⟩ := pure_eq_ok.1 h
        exact ⟨hfound.trans (Bool.eq_false_iff.2 hnot), rfl⟩
    | some value =>
      obtain ⟨_, _, -, hpure⟩ := bind_eq_ok.1 h
      cases (pure_eq_ok.1 hpure).1
  · rintro ⟨hfound, rfl⟩
    refine ⟨_, cursor, ⟨rfl, rfl⟩, none, cursor, ⟨false, cursor, ⟨hfound, rfl⟩, ?_⟩, ?_⟩
    · rw [if_neg Bool.false_ne_true]
      exact pure_eq_ok.2 ⟨rfl, rfl⟩
    · exact pure_eq_ok.2 ⟨rfl, rfl⟩

/-- A text is parsed if nothing is left of it, nor of a group in it. -/
theorem parseAll_eq_ok {p : Parser α} {a : α} : parseAll p trees stop = .ok a ↔
    ∃ stop', p ⟨trees, stop, none⟩ = .ok (a, ⟨[], stop', none⟩) := by
  unfold parseAll
  constructor
  · intro h
    obtain ⟨⟨found, left, stop', surplus⟩, hp, h⟩ := ok_of_bind h
    dsimp only at h
    split at h
    · cases h
    · rename_i hnone
      cases h
      obtain ⟨rfl, hleft⟩ := Option.or_eq_none_iff.1 hnone
      cases left with
      | nil => exact ⟨stop', hp⟩
      | cons tree rest => cases hleft
  · rintro ⟨stop', hp⟩
    show (p ⟨trees, stop, none⟩ >>= _) = _
    rw [hp]
    rfl

end Preferences.Source.Parser
