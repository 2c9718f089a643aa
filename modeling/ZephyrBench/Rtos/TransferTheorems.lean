/-
ZephyrBench.Rtos.TransferTheorems — what the transfers do when nothing is in
the way.

The calls of pipes and mailboxes have many branches. Programs that pass one
message at a time are in few of them: the object is empty, and there is either
one waiter or none. The lemmas say what a call does there:

  * `pipeRead_empty`    — a reader finds the pipe empty and pends for all bytes.
  * `pipeWrite_waiting` — a writer finds that reader and gives it all it waits
    for, past the ring.
  * `pipeWrite_room`    — a writer without a reader puts the message into the
    ring.
  * `pipeRead_stored`   — a reader takes it out, and the offset moves on.

The number of bytes is a parameter, so the list functions of the transfers do
not compute; these lemmas are what a symbolic execution uses instead.
-/
import ZephyrBench.Rtos.Transfer

namespace ZephyrBench.Rtos

variable {T O A : Type} [DecidableEq T] [DecidableEq O] [DecidableEq A]

/-! ## 1. Pipes -/

namespace Kernel

variable {k : Kernel T O A} {w : T} {o : O} {src dst : A} {size offset len : Nat}
  {bytes : List UInt8}

omit [DecidableEq T] [DecidableEq A] in
/-- An object that gets the state it is in. -/
theorem update_of_eq {x : Obj T A} (h : k.obj o = x) : Function.update k.obj o x = k.obj :=
  h ▸ Function.update_eq_self o k.obj

/-- A reader finds the pipe empty and waits for all it asked for. -/
theorem pipeRead_empty (me : T) (dst : A) (hobj : k.obj o = .pipe size 0 [] []) (hlen : 0 < len) :
    k.pipeRead me o dst len .forever =
      (k.setData (k.data.setSwap me (.buffer dst len 0))).pendOn me o := by
  have hne := Nat.ne_of_lt hlen
  have hsame := update_of_eq hobj
  simp [pipeRead, hobj, refill, Data.copyTo, copyAt, hne, setData, setObj, hsame]

/-- A writer finds room for its message. -/
theorem pipeWrite_room (me : T) (timeout : Timeout) (hobj : k.obj o = .pipe size offset [] [])
    (hwaitq : k.waitq o = []) (hlen : len ≤ (k.data.buf src).length) (hsize : len ≤ size) :
    k.pipeWrite me o src len timeout =
      ((k.setData k.data).wake o [] []).setObj o
        (.pipe size offset ((k.data.buf src).take len) []) := by
  have hstored : ((k.data.buf src).take len).length ≤ size := by
    rw [List.length_take]
    omega
  simp [pipeWrite, hobj, hwaitq, copyToPendingReaders, List.take_of_length_le hstored]

/-- A reader finds all it asked for, and the offset moves on. -/
theorem pipeRead_stored (me : T) (dst : A) (timeout : Timeout)
    (hobj : k.obj o = .pipe size offset bytes []) (hlen : bytes.length = len) (hsize : 0 < size) :
    k.pipeRead me o dst len timeout =
      (k.setData (k.data.copyTo dst 0 bytes)).setObj o
        (.pipe size ((offset + len) % size) [] []) := by
  have hne := Nat.ne_of_gt hsize
  have htake : bytes.take len = bytes := List.take_of_length_le (Nat.le_of_eq hlen)
  have hdrop : bytes.drop len = [] := List.drop_eq_nil_of_le (Nat.le_of_eq hlen)
  simp [pipeRead, hobj, refill, htake, hdrop, hlen, hne]

/-- A writer finds a reader that waits for as much as it has to give. -/
theorem pipeWrite_waiting (me : T) (timeout : Timeout) (hobj : k.obj o = .pipe size offset [] [])
    (hwaitq : k.waitq o = [w]) (hswap : k.data.swap w = .buffer dst len 0) (hpos : 0 < len)
    (hlen : len ≤ (k.data.buf src).length) :
    k.pipeWrite me o src len timeout =
      ((k.setData ((k.data.copyTo dst 0 ((k.data.buf src).take len)).setSwap w
        (.buffer dst len len))).wake o [w] []).reschedule := by
  have hlength : ((k.data.buf src).take len).length = len := by
    rw [List.length_take]
    omega
  obtain ⟨b, bs, hdata⟩ : ∃ b bs, (k.data.buf src).take len = b :: bs := by
    refine List.exists_cons_of_length_pos ?_
    omega
  rw [hdata] at hlength
  have hpart : (b :: bs).take len = b :: bs := List.take_of_length_le (by omega)
  have hleft : (b :: bs).drop len = [] := List.drop_eq_nil_of_le (by omega)
  have hsame := update_of_eq hobj
  simp [pipeWrite, hobj, hwaitq, copyToPendingReaders, hdata, hswap, hpart, hleft, hlength,
    setData, setObj, wake, hsame]

end Kernel

end ZephyrBench.Rtos
