import Preferences.Proofs.Pairs
import Preferences.Sample.Declarations

/-! What is done to stores that nobody tells apart. Gateways, adapters and generated methods give
the same through either of them, open the same streams and log the same, and leave such stores. -/

namespace Preferences.Store

variable {watched : Watch} {store other : Store}

/-! ### Gateways and adapters -/

theorem Permission.paired_put (permission : Permission) (h : Paired watched store other)
    (key : String) (value : Value) :
    PairedAfter watched (permission.put store key value) (permission.put other key value) := by
  cases permission with
  | full => exact h.write key value
  | readOnly => exact h.done

theorem Permission.paired_putSync (permission : Permission) (h : Paired watched store other)
    (key : String) (value : Value) :
    (permission.putSync store key value).1 = (permission.putSync other key value).1 ∧
      PairedAfter watched (permission.putSync store key value).2
        (permission.putSync other key value).2 := by
  cases permission with
  | full => exact ⟨rfl, h.write key value⟩
  | readOnly => exact ⟨rfl, h.done⟩

theorem Permission.paired_remove (permission : Permission) (h : Paired watched store other)
    (key : String) :
    PairedAfter watched (permission.remove store key) (permission.remove other key) := by
  cases permission with
  | full => exact h.remove key
  | readOnly => exact h.done

theorem Permission.paired_clear (permission : Permission) (h : Paired watched store other) :
    PairedAfter watched (permission.clear store) (permission.clear other) := by
  cases permission with
  | full => exact h.clear
  | readOnly => exact h.done

/-- The same stream is opened on two stores. -/
def PairedStreams (watched : Watch) (result result' : Stream α × Store × List Event) : Prop :=
  result.1 = result'.1 ∧ PairedAfter (watched.plus result.1.source) result.2 result'.2

theorem Paired.observe_stream (h : Paired watched store other) (key : String) (fallback : Value)
    (view : Value → α × List Event) :
    PairedStreams watched
      (⟨(store.observe key fallback).1, view⟩, (store.observe key fallback).2)
      (⟨(other.observe key fallback).1, view⟩, (other.observe key fallback).2) := by
  obtain ⟨hsource, hevents, hafter⟩ := h.observe key fallback
  exact ⟨congrArg (Stream.mk · view) hsource, hafter, hevents⟩

/-- An adapter that does the same to stores that nobody tells apart. -/
structure Adapter.Uniform (adapter : Adapter α) : Prop where
  observe : ∀ {watched store other}, Paired watched store other → ∀ permission key fallback,
    PairedStreams watched (adapter.observe permission store key fallback)
      (adapter.observe permission other key fallback)
  get : ∀ {watched store other}, Paired watched store other → ∀ permission key fallback,
    (adapter.get permission store key fallback).1 =
        (adapter.get permission other key fallback).1 ∧
      PairedAfter watched (adapter.get permission store key fallback).2
        (adapter.get permission other key fallback).2
  put : ∀ {watched store other}, Paired watched store other → ∀ permission key value,
    PairedAfter watched (adapter.put permission store key value)
      (adapter.put permission other key value)

theorem Codec.adapter_uniform (codec : Codec α) : codec.adapter.Uniform where
  observe h _ key _ := h.observe_stream key _ _
  get h _ key fallback := by
    simp only [Codec.adapter, h.read_eq key, true_and]
    exact ⟨h, rfl⟩
  put h permission key _ := permission.paired_put h key _

end Preferences.Store

namespace Preferences.Schema

open Preferences.Store

/-! ### Generated methods -/

/-- The channels that are watched once a method has given something. -/
def watchedWith (watched : Watch) : Given α → Watch
  | .stream stream => watched.plus stream.source
  | _ => watched

/-- A method gives the same on two stores. -/
def PairedGiven (watched : Watch) (result result' : Given α × Store × List Event) : Prop :=
  result.1 = result'.1 ∧ PairedAfter (watchedWith watched result.1) result.2 result'.2

variable (permission : Permission) {watched : Watch} {store other : Store}

theorem runRead_paired (h : Paired watched store other) (watch : Bool) (kind : Kind) (key : String)
    (fallback : Datum α) :
    PairedGiven watched (runRead store watch kind key fallback)
      (runRead other watch kind key fallback) := by
  unfold runRead
  split
  · exact ⟨rfl, h.done⟩
  · rename_i value _
    cases watch with
    | true =>
      obtain ⟨hsource, hevents, hafter⟩ := h.observe key value
      exact ⟨congrArg (fun source => Given.stream ((Stream.plain source).map .native)) hsource,
        hafter, hevents⟩
    | false =>
      rw [h.read_eq key]
      exact ⟨rfl, h, rfl⟩

theorem runWrite_paired (h : Paired watched store other) (sync : Bool) (kind : Kind)
    (key : String) (value : Datum α) :
    PairedGiven watched (runWrite permission store sync kind key value)
      (runWrite permission other sync kind key value) := by
  unfold runWrite
  split
  · exact ⟨rfl, h.done⟩
  · rename_i value _
    cases sync with
    | true =>
      obtain ⟨hresult, hafter⟩ := permission.paired_putSync h key value
      exact ⟨congrArg Given.completion hresult, hafter⟩
    | false => exact ⟨rfl, permission.paired_put h key value⟩

theorem runAdapterRead_paired {adapter : Adapter α} (huniform : adapter.Uniform)
    (h : Paired watched store other) (watch : Bool) (key : String) (fallback : Datum α) :
    PairedGiven watched (runAdapterRead permission store watch adapter key fallback)
      (runAdapterRead permission other watch adapter key fallback) := by
  unfold runAdapterRead
  split
  · exact ⟨rfl, h.done⟩
  · rename_i fallback _
    cases watch with
    | true =>
      obtain ⟨hstream, hafter⟩ := huniform.observe h permission key fallback
      exact ⟨congrArg (fun stream : Stream α => Given.stream (stream.map .adapted)) hstream,
        hafter⟩
    | false =>
      obtain ⟨hvalue, hafter⟩ := huniform.get h permission key fallback
      exact ⟨congrArg (fun value : α => Given.datum (.adapted value)) hvalue, hafter⟩

theorem runAdapterWrite_paired {adapter : Adapter α} (huniform : adapter.Uniform)
    (h : Paired watched store other) (key : String) (value : Datum α) :
    PairedGiven watched (runAdapterWrite permission store adapter key value)
      (runAdapterWrite permission other adapter key value) := by
  unfold runAdapterWrite
  split
  · exact ⟨rfl, h.done⟩
  · exact ⟨rfl, huniform.put h permission key _⟩

theorem Call.run_paired {meaning : Meaning α} (passed : Passed α)
    (huniform : ∀ bound, (meaning.adapter bound).Uniform) (h : Paired watched store other)
    (call : Call) :
    PairedGiven watched (call.run meaning permission passed store)
      (call.run meaning permission passed other) := by
  cases call with
  | read watch kind key fallback => exact runRead_paired h watch kind _ _
  | write sync kind key _ => exact runWrite_paired permission h sync kind _ _
  | adapterRead watch bound key fallback =>
    exact runAdapterRead_paired permission (huniform bound) h watch _ _
  | adapterWrite bound key _ => exact runAdapterWrite_paired permission (huniform bound) h _ _
  | contains key =>
    have hflag : store.values.contains (key.resolve passed.key) =
        other.values.contains (key.resolve passed.key) := by rw [h.values]
    exact ⟨congrArg Given.flag hflag, h, rfl⟩
  | remove key => exact ⟨rfl, permission.paired_remove h _⟩
  | clear => exact ⟨rfl, permission.paired_clear h⟩

end Preferences.Schema

namespace Preferences.Sample

open Preferences.Schema Preferences.Store

theorem Custom.ordinalAdapter_uniform : Custom.ordinalAdapter.Uniform where
  observe h _ key _ := h.observe_stream key _ _
  get h _ key fallback := by
    simp only [Custom.ordinalAdapter, h.read_eq key, true_and]
    exact ⟨h, rfl⟩
  put h permission key _ := permission.paired_put h key _

theorem Custom.imperialAdapter_uniform : Custom.imperialAdapter.Uniform where
  observe h _ key _ := h.observe_stream key _ _
  get h _ _ _ := ⟨rfl, h.done⟩
  put h permission key _ := permission.paired_put h key _

theorem adapterOf_uniform (bound : AdapterBinding) : (adapterOf bound).Uniform := by
  unfold adapterOf
  split
  · exact Custom.ordinalAdapter_uniform
  · exact Codec.adapter_uniform _
  · exact Custom.imperialAdapter_uniform

namespace Declaration

variable {watched : Watch} {store other : Store}

/-- The summary is made of what is read, and of nothing else. -/
theorem summary_paired (h : Paired watched store other)
    {read read' : String → Given Custom × Store × List Event}
    (hread : ∀ method,
      (read method).1 = (read' method).1 ∧ (read method).2.2 = (read' method).2.2) :
    PairedGiven watched
      ((.datum (.native (.string (summary read).1)) : Given Custom), store, (summary read).2)
      (.datum (.native (.string (summary read').1)), other, (summary read').2) := by
  obtain ⟨hname, hnameEvents⟩ := hread "get_username"
  obtain ⟨hage, hageEvents⟩ := hread "get_age"
  have hsame : summary read = summary read' := by
    simp only [summary, hname, hnameEvents, hage, hageEvents]
  rw [hsame]
  exact ⟨rfl, h, rfl⟩

theorem invoke_paired (declaration : Declaration) (permission : Permission)
    (passed : Passed Custom) (h : Paired watched store other) (method : String) :
    PairedGiven watched (declaration.invoke permission passed store method)
      (declaration.invoke permission passed other method) := by
  have huniform (bound : AdapterBinding) : (declaration.meaning.adapter bound).Uniform := by
    cases declaration <;> exact adapterOf_uniform bound
  have hrun (call : Call) := Call.run_paired permission passed huniform h call
  unfold invoke
  -- The declaration need not be compiled to see this.
  generalize declaration.call? = callOf
  dsimp only
  split
  · exact ⟨rfl, h.done⟩
  · refine summary_paired h fun method => ?_
    cases callOf method with
    | some call => exact ⟨(hrun call).1, (hrun call).2.2⟩
    | none => exact ⟨rfl, rfl⟩
  · rw [h.values]
    exact ⟨rfl, h.done⟩
  · rw [h.values]
    exact ⟨rfl, h.done⟩
  · cases callOf method with
    | some call => exact hrun call
    | none => exact ⟨rfl, h.done⟩

end Declaration

end Preferences.Sample
