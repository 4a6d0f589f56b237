import BytecodeStore.Bytecode.Load
import BytecodeStore.Proofs.Storage.Append

/-! # What loading makes of bytes

A load that ends well has written every byte behind those before it.
-/
namespace BytecodeStore.Chunk
variable {m : Allocator} {rule : Doubling} {c d : Chunk}

theorem toList_loadFrom {growths : List Growth} {bytes : List UInt8}
    (loaded : (loadFrom m c growths bytes).2 = .ok d) : d.toList = c.toList ++ bytes := by
  induction bytes generalizing c growths with
  | nil =>
    cases loaded
    exact (List.append_nil _).symm
  | cons byte rest ih =>
    rw [loadFrom] at loaded
    split at loaded
    · cases loaded
    · rename_i next growth pushed
      rw [ih loaded, (Buffer.push_eq_ok_iff.mp pushed).toList_eq, List.append_assoc, List.singleton_append]

theorem toList_load {bytes : Array UInt8} (loaded : (load m rule bytes).2 = .ok c) : c.toList = bytes.toList := by
  unfold load at loaded
  split at loaded
  · cases loaded
  · rename_i h
    cases loaded
    have result : (loadFrom m (withRule rule) [] bytes.toList).2 = .ok c := congrArg Prod.snd h
    rw [toList_loadFrom result, withRule, Buffer.toList_withRule, List.nil_append]

theorem toList_demo (made : (demo m rule).2 = .ok c) : c.toList = [OpCode.ret.toByte] := by
  unfold demo pushOp at made
  split at made
  · cases made
  · rename_i pushed
    cases made
    rw [(Buffer.push_eq_ok_iff.mp pushed).toList_eq, withRule, Buffer.toList_withRule, List.nil_append]

end BytecodeStore.Chunk
