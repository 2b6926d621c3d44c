import Preferences.Schema.Compile

/-! The words of generated code. The struct and the implementations of a declaration fail to compile
by no word of their own: a `compile_error` in them is one that the declaration has. -/

namespace Preferences.Source

mutual

/-- The words of a piece, at any depth. -/
def Piece.vocabulary : Piece → List String
  | .word text _ => [text]
  | .group _ body => Code.vocabulary body

/-- The words of code, at any depth. -/
def Code.vocabulary : List Piece → List String
  | [] => []
  | piece :: rest => piece.vocabulary ++ Code.vocabulary rest

end

@[simp] theorem Piece.vocabulary_word (text : String) (glued : Bool) :
    (word text glued).vocabulary = [text] := rfl

@[simp] theorem Piece.vocabulary_group (delimiter : Delimiter) (body : Code) :
    (group delimiter body).vocabulary = Code.vocabulary body := rfl

namespace Code

@[simp] theorem vocabulary_nil : vocabulary [] = [] := rfl

@[simp] theorem vocabulary_cons (piece : Piece) (rest : Code) :
    vocabulary (piece :: rest) = piece.vocabulary ++ vocabulary rest := rfl

@[simp] theorem vocabulary_append (code rest : Code) :
    vocabulary (code ++ rest) = vocabulary code ++ vocabulary rest := by
  induction code with
  | nil => rfl
  | cons piece code ih =>
    rw [List.cons_append, vocabulary, ih, vocabulary, List.append_assoc]

@[simp] theorem vocabulary_words (texts : List String) : vocabulary (words texts) = texts := by
  induction texts with
  | nil => rfl
  | cons text rest ih => exact congrArg (text :: ·) ih

@[simp] theorem vocabulary_flatMap (f : α → Code) (items : List α) :
    vocabulary (items.flatMap f) = items.flatMap fun item => vocabulary (f item) := by
  induction items with
  | nil => rfl
  | cons item rest ih => rw [List.flatMap_cons, vocabulary_append, ih, List.flatMap_cons]

/-- A word of parts with marks between them is a mark, or a word of a part. -/
theorem mem_vocabulary_separated {text mark : String} {parts : List Code}
    (h : text ∈ vocabulary (separated (.plain mark) parts)) :
    text = mark ∨ ∃ part ∈ parts, text ∈ vocabulary part := by
  induction parts using separated.induct with
  | case1 => cases h
  | case2 part => exact .inr ⟨part, List.mem_singleton_self part, h⟩
  | case3 part next rest ih =>
    simp only [separated, vocabulary_append, vocabulary_cons, Piece.vocabulary_word,
      List.mem_append, List.mem_singleton] at h
    rcases h with hpart | hmark | hrest
    · exact .inr ⟨part, List.mem_cons_self, hpart⟩
    · exact .inl hmark
    · exact (ih hrest).imp_right fun ⟨found, hfound, hin⟩ =>
        ⟨found, List.mem_cons_of_mem part hfound, hin⟩

end Code

end Preferences.Source

namespace Preferences.Schema

open Preferences.Source Preferences.Syntax

/-! ### Repeated parts -/

/-- The parts of a declaration that a generated call repeats. -/
def Call.parts : Call → Code
  | read _ _ key fallback => [key.piece, fallback.name.piece]
  | write _ _ key value => [key.piece, value.piece]
  | adapterRead _ bound key fallback =>
    bound.adapter.code ++ bound.valueType.code ++ [key.piece, fallback.name.piece]
  | adapterWrite bound key value =>
    bound.adapter.code ++ bound.valueType.code ++ [key.piece, value.piece]
  | contains key | remove key => [key.piece]
  | clear => []

/-- What the struct and the implementations repeat of a declaration: its visibility, its names, the
path of the runtime, and the signatures of its methods with the parts of their calls. -/
def Compiled.repeated (compiled : Compiled) : Code :=
  compiled.schema.decl.visibility ++ [compiled.schema.decl.name.piece,
    .plain compiled.schema.implName, compiled.schema.namespaceName.piece] ++
    compiled.schema.runtime.code ++
    compiled.methods.flatMap fun method => method.signature.code ++ method.call.parts

/-! ### Words of the generated code -/

variable {schema : Schema}

theorem literal_ne_compileError (text : String) : Text.literal text ≠ "compile_error" := by
  intro h
  have hchars := congrArg String.toList h
  rw [Text.literal, String.toList_ofList] at hchars
  cases hchars

theorem mem_vocabulary_argumentCode {kind : Store.Kind} {value : Code} :
    "compile_error" ∈ Code.vocabulary (argumentCode kind value) ↔
      "compile_error" ∈ Code.vocabulary value := by
  unfold argumentCode
  split <;> simp

theorem readName_ne_compileError (watch : Bool) (kind : Store.Kind) :
    "compile_error" ≠ readVerb watch ++ "_" ++ kind.name := by
  cases watch <;> cases kind <;> decide

theorem writeName_ne_compileError (sync : Bool) (kind : Store.Kind) :
    "compile_error" ≠ "put_" ++ kind.name ++ if sync then "_sync" else "" := by
  cases sync <;> cases kind <;> decide

/-- A call of the gateway has no `compile_error` but in the path of the runtime and in what is
passed. -/
theorem mem_vocabulary_gatewayCall {operation : String} {args : List Code}
    (hname : "compile_error" ≠ operation)
    (h : "compile_error" ∈ Code.vocabulary (gatewayCall schema operation args)) :
    "compile_error" ∈ Code.vocabulary schema.runtime.code ∨
      ∃ arg ∈ args, "compile_error" ∈ Code.vocabulary arg := by
  have hargs := @Code.mem_vocabulary_separated "compile_error" "," (gatewayCode :: args)
  simp [gatewayCall, Code.commaList, hname] at h
  rcases h with hruntime | h
  · exact .inl hruntime
  · exact .inr (by simpa [gatewayCode] using hargs h)

theorem mem_vocabulary_adapterCall {bound : AdapterBinding} {operation : String} {args : List Code}
    (hname : "compile_error" ≠ operation)
    (h : "compile_error" ∈ Code.vocabulary (adapterCall schema bound operation args)) :
    "compile_error" ∈ Code.vocabulary (bound.adapter.code ++ bound.valueType.code) ∨
      "compile_error" ∈ Code.vocabulary schema.runtime.code ∨
      ∃ arg ∈ args, "compile_error" ∈ Code.vocabulary arg := by
  have hargs := @Code.mem_vocabulary_separated "compile_error" "," (args ++ [gatewayCode])
  simp [adapterCall, Code.commaList, hname] at h
  rcases h with hadapter | hruntime | htype | h
  · exact .inl (by simp [hadapter])
  · exact .inr (.inl hruntime)
  · exact .inl (by simp [htype])
  · exact .inr (.inr (by simpa [gatewayCode, or_and_right, exists_or] using hargs h))

/-- The body of a method has no `compile_error` that the declaration does not have. -/
theorem mem_vocabulary_body {call : Call}
    (h : "compile_error" ∈ Code.vocabulary (call.code schema)) :
    "compile_error" ∈ Code.vocabulary ([schema.decl.name.piece] ++ schema.runtime.code ++
      call.parts) := by
  cases call with
  | read watch kind key fallback =>
    have hcall := mem_vocabulary_gatewayCall (readName_ne_compileError watch kind) h
    simp [Call.parts, mem_vocabulary_argumentCode, defaultCode] at hcall ⊢
    grind
  | write sync kind key value =>
    have hcall := mem_vocabulary_gatewayCall (writeName_ne_compileError sync kind) h
    simp [Call.parts, mem_vocabulary_argumentCode] at hcall ⊢
    grind
  | adapterRead watch bound key fallback =>
    have hname : "compile_error" ≠ readVerb watch := by cases watch <;> decide
    have hcall := mem_vocabulary_adapterCall hname h
    simp [Call.parts, defaultCode] at hcall ⊢
    grind
  | adapterWrite bound key value =>
    have hcall := mem_vocabulary_adapterCall (by decide) h
    simp [Call.parts] at hcall ⊢
    grind
  | contains | remove | clear =>
    have hcall := mem_vocabulary_gatewayCall (by decide) h
    simp [Call.parts] at hcall ⊢
    grind

/-- The struct and the implementations have no `compile_error` that the declaration does not
have. -/
theorem mem_vocabulary_generated {compiled : Compiled}
    (h : "compile_error" ∈ Code.vocabulary (structCode compiled.schema ++
      inherentCode compiled.schema ++ implementationCode compiled.schema compiled.methods)) :
    "compile_error" ∈ Code.vocabulary compiled.repeated := by
  simp only [Code.vocabulary_append, List.mem_append, or_assoc] at h
  rcases h with hstruct | hinherent | himpl
  · simp [structCode, docCode, (literal_ne_compileError _).symm] at hstruct
    simp [Compiled.repeated]
    grind
  · simp [inherentCode, docCode, functionCode] at hinherent
    simp [Compiled.repeated]
    grind
  · simp [implementationCode, Accessor.code] at himpl
    simp only [Compiled.repeated, Code.vocabulary_append, Code.vocabulary_flatMap, List.mem_append,
      List.mem_flatMap]
    rcases himpl with hruntime | hname | himplName | ⟨method, hmethod, hsig | hbody⟩
    · exact .inl (.inr hruntime)
    · exact .inl (.inl (.inr (by simp [hname])))
    · exact .inl (.inl (.inr (by simp [himplName])))
    · exact .inr ⟨method, hmethod, .inl hsig⟩
    · have hparts := mem_vocabulary_body hbody
      simp only [Code.vocabulary_append, List.mem_append] at hparts
      rcases hparts with (hname | hruntime) | hparts
      · exact .inl (.inl (.inr (List.mem_append_left _ hname)))
      · exact .inl (.inr hruntime)
      · exact .inr ⟨method, hmethod, .inr hparts⟩

end Preferences.Schema
