import TriStore.Proofs.Guarded
import TriStore.Proofs.LayerPrecedence
import TriStore.Proofs.SavedPolicy

/-!
Setting a policy. A document with faults is answered with them and leaves no trace.
-/
namespace TriStore
open TriStore.Action

namespace Policy

theorem readOrder_labels {sources : List Source} (some : sources ≠ []) (nodup : sources.Nodup) :
    readOrder (.list (sources.map fun s => .text s.label)) = .ok (sources, []) := by
  have named (s : Source) : Source.ofValue (.text s.label) = .ok s := by
    cases s <;> exact eq_ok_of_toOption (by decide +kernel)
  have elements := elements?_tokens (sources.map fun s => .raw s.label)
  rw [List.map_map] at elements
  exact readOrder_faultless_iff.2 ⟨⟨_, elements, by simp [Token.value, named]⟩, some, nodup⟩

theorem ofValue_toValue {p : Policy} (usable : p.Usable) (origin : String) :
    ofValue p.toValue origin = .ok { p with origin } := by
  have fields (name : String) := Value.field?_record [("priority", .list (p.priority.map fun s => .text s.label)),
    ("stop_on_first", .bool p.stopOnFirst), ("check_all_for_updates", .bool p.checkAllForUpdates),
    ("fallback_on_error", .bool p.fallbackOnError)] name
  have switch {name : String} (other : String) {b : Bool} (there : p.toValue.field? name = some (.bool b)) :
      readSwitch p.toValue name other = .ok { value := some b } := by
    rw [readSwitch, there]
  have order : priorityOf p.toValue = .ok (p.priority, []) := by
    rw [priorityOf, toValue, fields]
    exact readOrder_labels usable.1 usable.2
  show ofMapping p.toValue origin = _
  rw [ofMapping_eq, order, switch _ (fields "stop_on_first"), switch _ (fields "check_all_for_updates"),
    switch _ (fields "fallback_on_error")]
  rfl

end Policy

namespace Home

open Policy

variable {h : Home} {t : FileTree} {p : Policy}

end Home

namespace Portfolio

variable {policy : Policy}

open Policy

variable {p : Portfolio} {document : Value} {w : World}

end Portfolio

end TriStore
