import LonStack.Lib.Region

universe u

namespace LonStack.Lib

namespace Image

def front (m : Image) (n : Nat) : Image := fun k => if k < n then m k else 0

section

variable {m : Image} {n offset k : Nat} {bytes : List UInt8}

theorem front_of_lt (h : k < n) : m.front n k = m k := if_pos h

theorem front_write (hle : offset ≤ n) :
    (m.write offset bytes).front n = (m.front n).write offset (bytes.take (n - offset)) := by
  have hlength : (bytes.take (n - offset)).length = min (n - offset) bytes.length := List.length_take
  funext k
  by_cases hlt : k < offset
  case pos =>
    rw [write_of_lt _ _ hlt, front_of_lt (by omega), front_of_lt (by omega), write_of_lt _ _ hlt]
  case neg =>
    obtain ⟨i, rfl⟩ := Nat.exists_eq_add_of_le (Nat.le_of_not_lt hlt)
    by_cases hn : offset + i < n
    case neg =>
      rw [write_of_le _ _ (by omega), front, front, if_neg hn, if_neg hn]
    case pos =>
      rw [front_of_lt hn]
      by_cases hi : i < bytes.length
      case pos =>
        rw [write_of_mem _ _ hi, write_of_mem _ _ (by omega), List.getElem_take]
      case neg =>
        rw [write_of_le _ _ (by omega), write_of_le _ _ (by omega), front_of_lt hn]

end

abbrev Writes := List (Nat × List UInt8)

def writeAll (m : Image) (ws : Writes) : Image := ws.foldl (fun m w => m.write w.1 w.2) m

/-- What there may be once the power is lost: any of the writes may have stored any part of its bytes,
and those behind it do nothing. -/
inductive Cut : Writes → Image → Image → Prop
  | off (ws : Writes) (m : Image) : Cut ws m m
  | during {i : Nat} {bs : List UInt8} {ws : Writes} {m : Image} (k : Nat) :
      Cut ((i, bs) :: ws) m (m.write i (bs.take k))
  | after {i : Nat} {bs : List UInt8} {ws : Writes} {m m' : Image} :
      Cut ws (m.write i bs) m' → Cut ((i, bs) :: ws) m m'

variable {ws ws' : Writes} {m m' : Image} {n r : Nat}

theorem writeAll_append (m : Image) (ws ws' : Writes) :
    m.writeAll (ws ++ ws') = (m.writeAll ws).writeAll ws' := List.foldl_append

namespace Cut

theorem complete (ws : Writes) (m : Image) : Cut ws m (m.writeAll ws) := by
  induction ws generalizing m with
  | nil => exact .off [] _
  | cons w ws ih => exact .after (ih _)

theorem of_nil (h : Cut [] m m') : m' = m := by
  cases h
  rfl

theorem append (h : Cut (ws ++ ws') m m') : Cut ws m m' ∨ Cut ws' (m.writeAll ws) m' := by
  induction ws generalizing m with
  | nil => exact .inr h
  | cons w ws ih =>
    cases h with
    | off => exact .inl (.off _ _)
    | during k => exact .inl (.during k)
    | after h => exact (ih h).imp .after id

theorem left (ws' : Writes) (h : Cut ws m m') : Cut (ws ++ ws') m m' := by
  induction h with
  | off ws m => exact .off _ m
  | during k => exact .during k
  | after _ ih => exact .after ih

theorem right (ws : Writes) (h : Cut ws' (m.writeAll ws) m') : Cut (ws ++ ws') m m' := by
  induction ws generalizing m with
  | nil => exact h
  | cons w ws ih => exact .after (ih h)

theorem front (h : Cut ws m m') (hws : ∀ w ∈ ws, r ≤ w.1) {k : Nat} (hk : k < r) : m' k = m k := by
  induction h with
  | off => rfl
  | during j => exact write_of_lt _ _ (Nat.lt_of_lt_of_le hk (hws _ List.mem_cons_self))
  | after _ ih =>
    rw [ih fun w hw => hws w (List.mem_cons_of_mem _ hw)]
    exact write_of_lt _ _ (Nat.lt_of_lt_of_le hk (hws _ List.mem_cons_self))

theorem back (h : Cut ws m m') (hws : ∀ w ∈ ws, w.1 + w.2.length ≤ r) {k : Nat} (hk : r ≤ k) :
    m' k = m k := by
  induction h with
  | off => rfl
  | during j =>
    have hle := hws _ List.mem_cons_self
    dsimp only at hle
    exact write_of_le _ _ (by rw [List.length_take]; omega)
  | after _ ih =>
    rw [ih fun w hw => hws w (List.mem_cons_of_mem _ hw)]
    exact write_of_le _ _ (Nat.le_trans (hws _ List.mem_cons_self) hk)

end Cut

end Image

structure Journal (β : Type u) where
  recordSize : Nat
  valid : Image → Bool
  payload : Image → Option β
  valid_congr : ∀ m m', (∀ k < recordSize, m' k = m k) → valid m' = valid m
  payload_congr : ∀ m m', (∀ k, recordSize ≤ k → m' k = m k) → payload m' = payload m

namespace Journal

open Image

variable {β : Type u} (j : Journal β) {m m' : Image} {invalidate body : Writes} {record : List UInt8}

def shown (m : Image) : Option β := if j.valid m then j.payload m else none

/-- Wherever the power is lost, a record that is valid stands before what has been visible before. -/
def Hides (ws : Writes) (m : Image) : Prop :=
  ∀ m', Cut ws m m' → j.valid m' = true → j.shown m ≠ none ∧ j.shown m' = j.shown m

variable {j}

theorem shown_of_valid (h : j.valid m = true) : j.shown m = j.payload m := if_pos h

theorem shown_of_not_valid (h : j.valid m = false) : j.shown m = none := by
  rw [shown, h]
  rfl

/-- The record is taken back, what lies behind it is written, and the record is put down again. If the
power is lost on the way, the old or the new data is there, or no record. -/
theorem shown_of_cut (hhides : j.Hides invalidate m) (hinvalid : j.valid (m.writeAll invalidate) = false)
    (hbody : ∀ w ∈ body, j.recordSize ≤ w.1) (hrecord : record.length ≤ j.recordSize)
    (hcut : Cut (invalidate ++ (body ++ [(0, record)])) m m') (hvalid : j.valid m' = true) :
    j.shown m ≠ none ∧ j.shown m' = j.shown m ∨
      j.shown m' = j.payload ((m.writeAll invalidate).writeAll body) := by
  cases hcut.append with
  | inl hcut => exact .inl (hhides m' hcut hvalid)
  | inr hcut =>
    cases hcut.append with
    | inl hcut =>
      have hnot : j.valid m' = false :=
        (j.valid_congr _ m' fun k hk => hcut.front hbody hk).trans hinvalid
      exact Bool.noConfusion (hvalid.symm.trans hnot)
    | inr hcut =>
      have hlast : ∀ w ∈ [((0 : Nat), record)], w.1 + w.2.length ≤ j.recordSize := by
        intro w hw
        rw [List.mem_singleton.mp hw, Nat.zero_add]
        exact hrecord
      exact .inr ((shown_of_valid hvalid).trans (j.payload_congr _ m' fun k hk => hcut.back hlast hk))

end Journal

end LonStack.Lib
