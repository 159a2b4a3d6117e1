import CourtroomGateway.Metrics.Page
import CourtroomGateway.Table.Lemmas
import Mathlib.Data.List.Perm.Basic

/-! What a turn enters into the metrics, as a list of entries. It does not matter in which order
entries are made: amounts and times add up. -/

namespace CourtroomGateway

namespace Metrics

theorem Counter.inc_right_comm (c : Counter) (labels others : List Label) :
    (c.inc labels).inc others = (c.inc others).inc labels := by
  by_cases same : LabelSet.of others = LabelSet.of labels
  · simp only [inc, add, get, same]
  · have first : (c.add labels 1).get others = c.get others := by rw [get_add, if_neg same]
    have second : (c.add others 1).get labels = c.get labels := by
      rw [get_add, if_neg (Ne.symm same)]
    refine congrArg mk ?_
    change (c.series.insert _ _).insert _ ((c.add labels 1).get others + 1) =
      (c.series.insert _ _).insert _ ((c.add others 1).get labels + 1)
    rw [first, second, Table.insert_comm (Ne.symm same)]

theorem Distribution.observe_right_comm (d : Distribution) (a b : Nat) :
    (d.observe a).observe b = (d.observe b).observe a := by
  have within (bounds : List Nat) (counts : List UInt64) :
      List.zipWith (fun bound n => if b ≤ bound then n + 1 else n) bounds
          (List.zipWith (fun bound n => if a ≤ bound then n + 1 else n) bounds counts) =
        List.zipWith (fun bound n => if a ≤ bound then n + 1 else n) bounds
          (List.zipWith (fun bound n => if b ≤ bound then n + 1 else n) bounds counts) := by
    induction bounds generalizing counts with
    | nil => rfl
    | cons bound bounds ih =>
      cases counts with
      | nil => rfl
      | cons n counts =>
        simp only [List.zipWith_cons_cons, ih]
        congr 1
        split <;> split <;> rfl
  have sum : d.sum + a.toUInt64 + b.toUInt64 = d.sum + b.toUInt64 + a.toUInt64 := by
    rw [UInt64.add_assoc, UInt64.add_comm a.toUInt64, ← UInt64.add_assoc]
  simp only [observe, within, sum]

theorem Histogram.observe_right_comm (h : Histogram) (labels others : List Label) (a b : Nat) :
    (h.observe labels a).observe others b = (h.observe others b).observe labels a := by
  have key : (h.observe labels a).series =
      h.series.insert (LabelSet.of labels) ((h.get labels).observe (microseconds a)) := rfl
  have key' : (h.observe others b).series =
      h.series.insert (LabelSet.of others) ((h.get others).observe (microseconds b)) := rfl
  refine congrArg mk ?_
  rw [key, key', get_observe, get_observe]
  by_cases same : LabelSet.of others = LabelSet.of labels
  · have entry : h.get others = h.get labels := by rw [get, get, same]
    rw [if_pos same, if_pos same.symm, same, entry, Distribution.observe_right_comm]
    refine Table.ext_find? fun i => ?_
    simp only [Table.find?_insert]
    split <;> rfl
  · rw [if_neg same, if_neg (Ne.symm same), Table.insert_comm (Ne.symm same)]

/-- One entry that a turn makes. -/
inductive Entry
  | read (labels : List Label)
  | unread (labels : List Label)
  | unknown
  | timed (labels : List Label) (nanoseconds : Nat)
  | failed (labels : List Label)
deriving Repr, DecidableEq

def enter (m : Metrics) : Entry → Metrics
  | .read labels => { m with decoded := m.decoded.inc labels }
  | .unread labels => { m with decodeFailures := m.decodeFailures.inc labels }
  | .unknown => { m with unknownCommands := m.unknownCommands.inc [] }
  | .timed labels nanoseconds =>
    { m with dispatchDuration := m.dispatchDuration.observe labels nanoseconds }
  | .failed labels => { m with handlerErrors := m.handlerErrors.inc labels }

def enterAll (m : Metrics) (entries : List Entry) : Metrics := entries.foldl enter m

-- Entries of two families do not meet, and those of one family add up.
instance : RightCommutative enter where
  right_comm m a b := by
    cases a with
    | read labels =>
      cases b with
      | read others => simp only [enter, Counter.inc_right_comm _ labels others]
      | _ => rfl
    | unread labels =>
      cases b with
      | unread others => simp only [enter, Counter.inc_right_comm _ labels others]
      | _ => rfl
    | unknown => cases b <;> rfl
    | timed labels =>
      cases b with
      | timed others => simp only [enter, Histogram.observe_right_comm _ labels others]
      | _ => rfl
    | failed labels =>
      cases b with
      | failed others => simp only [enter, Counter.inc_right_comm _ labels others]
      | _ => rfl

theorem enterAll_append (m : Metrics) (a b : List Entry) :
    m.enterAll (a ++ b) = (m.enterAll a).enterAll b := List.foldl_append

theorem enterAll_right_comm (m : Metrics) (a b : List Entry) :
    (m.enterAll a).enterAll b = (m.enterAll b).enterAll a := by
  rw [← enterAll_append, ← enterAll_append]
  exact List.perm_append_comm.foldl_eq m

end Metrics
end CourtroomGateway
