import LonStack.Tsa.Auth

namespace LonStack

theorem toNat_rotateLeft (n : UInt8) :
    ((n <<< 1) + (n >>> 7)).toNat = 2 * (n.toNat % 128) + n.toNat / 128 := by
  have hlt := n.toNat_lt
  simp [UInt8.toNat_add, UInt8.toNat_shiftLeft, UInt8.toNat_shiftRight, Nat.shiftLeft_eq,
    Nat.shiftRight_eq_div_pow]
  omega

theorem toNat_rotateRight (n : UInt8) :
    ((n >>> 1) + (n <<< 7)).toNat = n.toNat / 2 + 128 * (n.toNat % 2) := by
  have hlt := n.toNat_lt
  simp [UInt8.toNat_add, UInt8.toNat_shiftLeft, UInt8.toNat_shiftRight, Nat.shiftLeft_eq,
    Nat.shiftRight_eq_div_pow]
  omega

theorem rotateLeft_injective : Function.Injective fun n : UInt8 => (n <<< 1) + (n >>> 7) := by
  intro a b h
  have htoNat : ((a <<< 1) + (a >>> 7)).toNat = ((b <<< 1) + (b >>> 7)).toNat :=
    congrArg UInt8.toNat h
  rw [toNat_rotateLeft, toNat_rotateLeft] at htoNat
  have ha : a.toNat / 128 < 2 := Nat.div_lt_of_lt_mul a.toNat_lt
  have hb : b.toNat / 128 < 2 := Nat.div_lt_of_lt_mul b.toNat_lt
  apply UInt8.toNat_inj.mp
  rw [← Nat.div_add_mod a.toNat 128, ← Nat.div_add_mod b.toNat 128]
  generalize a.toNat / 128 = qa, a.toNat % 128 = ra, b.toNat / 128 = qb, b.toNat % 128 = rb at *
  omega

theorem rotateRight_injective : Function.Injective fun n : UInt8 => (n >>> 1) + (n <<< 7) := by
  intro a b h
  have htoNat : ((a >>> 1) + (a <<< 7)).toNat = ((b >>> 1) + (b <<< 7)).toNat :=
    congrArg UInt8.toNat h
  rw [toNat_rotateRight, toNat_rotateRight] at htoNat
  have ha := a.toNat_lt
  have hb := b.toNat_lt
  apply UInt8.toNat_inj.mp
  omega

theorem encryptRound_get_ne (keyByte : UInt8) (v : Challenge) (j : Fin 8) (m : UInt8)
    {i : Fin 8} (hne : i ≠ j) : (encryptRound keyByte v j m).get i = v.get i := by
  have hval : (j : Nat) ≠ i := fun heq => hne (Fin.ext heq.symm)
  unfold encryptRound
  dsimp only
  split
  · exact Vector.getElem_set_ne _ _ hval
  · exact Vector.getElem_set_ne _ _ hval

theorem encryptRound_get_self (keyByte : UInt8) (v : Challenge) (j : Fin 8) (m : UInt8) :
    (encryptRound keyByte v j m).get j =
      if keyByte &&& (1 <<< UInt8.ofNat (7 - j)) ≠ 0 then
        v.get (j + 1) + m + (((~~~(v.get j + UInt8.ofNat j)) <<< 1) +
          ((~~~(v.get j + UInt8.ofNat j)) >>> 7))
      else
        v.get (j + 1) + m - (((~~~(v.get j + UInt8.ofNat j)) >>> 1) +
          ((~~~(v.get j + UInt8.ofNat j)) <<< 7)) := by
  unfold encryptRound
  dsimp only
  split
  · exact Vector.getElem_set_self _
  · exact Vector.getElem_set_self _

theorem encryptRound_injective (keyByte : UInt8) (j : Fin 8) (m : UInt8) :
    Function.Injective fun v => encryptRound keyByte v j m := by
  intro v w h
  have hget : ∀ i : Fin 8, (encryptRound keyByte v j m).get i = (encryptRound keyByte w j m).get i :=
    fun i => congrArg (fun x : Challenge => x.get i) h
  have hother : ∀ i : Fin 8, i ≠ j → v.get i = w.get i := by
    intro i hne
    have hsame := hget i
    rw [encryptRound_get_ne _ _ _ _ hne, encryptRound_get_ne _ _ _ _ hne] at hsame
    exact hsame
  have hself : v.get j = w.get j := by
    have hdistinct : ∀ j : Fin 8, j + 1 ≠ j := by decide
    have hnext := hother (j + 1) (hdistinct j)
    have hround := hget j
    rw [encryptRound_get_self, encryptRound_get_self, hnext] at hround
    have hnot : ~~~(v.get j + UInt8.ofNat j) = ~~~(w.get j + UInt8.ofNat j) := by
      split at hround
      · exact rotateLeft_injective ((UInt8.add_right_inj _).mp hround)
      · exact rotateRight_injective ((UInt8.sub_right_inj _).mp hround)
    exact (UInt8.add_left_inj _).mp (UInt8.not_inj.mp hnot)
  ext i hi
  by_cases heq : (⟨i, hi⟩ : Fin 8) = j
  · rw [← heq] at hself
    exact congrArg UInt8.toNat hself
  · exact congrArg UInt8.toNat (hother ⟨i, hi⟩ heq)

structure Undoable (step : Challenge × List UInt8 → Challenge × List UInt8) : Prop where
  message : ∀ v w message, (step (v, message)).2 = (step (w, message)).2
  value : ∀ v w message, (step (v, message)).1 = (step (w, message)).1 → v = w

theorem Undoable.id : Undoable fun s => s where
  message _ _ _ := rfl
  value _ _ _ h := h

theorem Undoable.comp {first second : Challenge × List UInt8 → Challenge × List UInt8}
    (hfirst : Undoable first) (hsecond : Undoable second) :
    Undoable fun s => second (first s) where
  message v w message := by
    have hrest := hfirst.message v w message
    calc (second (first (v, message))).2
        = (second ((first (w, message)).1, (first (v, message)).2)).2 :=
          hsecond.message (first (v, message)).1 (first (w, message)).1 _
      _ = (second (first (w, message))).2 := by rw [hrest]
  value v w message h := by
    have hrest := hfirst.message v w message
    apply hfirst.value v w message
    apply hsecond.value _ _ (first (v, message)).2
    calc (second (first (v, message))).1
        = (second (first (w, message))).1 := h
      _ = (second ((first (w, message)).1, (first (v, message)).2)).1 := by rw [hrest]

theorem Undoable.foldl {α : Type} {step : Challenge × List UInt8 → α → Challenge × List UInt8}
    (hstep : ∀ a, Undoable fun s => step s a) (l : List α) :
    Undoable fun s => l.foldl step s := by
  induction l with
  | nil => exact .id
  | cons a l ih => exact (hstep a).comp ih

theorem undoable_encryptRound (keyByte : UInt8) (j : Fin 8) :
    Undoable fun s => (encryptRound keyByte s.1 j (s.2.headD 0), s.2.tail) where
  message _ _ _ := rfl
  value _ _ message h := encryptRound_injective keyByte j (message.headD 0) h

theorem undoable_encryptPass (key : List UInt8) : Undoable (encryptPass key) :=
  Undoable.foldl (fun keyByte => Undoable.foldl (undoable_encryptRound keyByte) _) key

theorem undoable_encryptLoop (key : List UInt8) (fuel : Nat) :
    Undoable (encryptLoop key fuel) := by
  induction fuel with
  | zero => exact .id
  | succ fuel ih =>
    have hpass := (undoable_encryptPass key).comp ih
    constructor
    · intro v w message
      unfold encryptLoop
      split
      · rfl
      · exact hpass.message v w message
    · intro v w message h
      unfold encryptLoop at h
      split at h
      · exact h
      · exact hpass.value v w message h

theorem encrypt_injective (apdu : List UInt8) (key : AuthKey × AuthKey) (isOma : Bool)
    (omaDest : OmaAddress) :
    Function.Injective fun rand => encrypt rand apdu key isOma omaDest := by
  intro v w h
  exact (undoable_encryptLoop (keyPasses key isOma) _).value v w _ h

end LonStack
