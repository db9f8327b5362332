import Mathlib.Data.List.Basic
import Mathlib.Logic.Equiv.Defs

namespace LonStack.Lib

/-- A format of bytes. What it encodes is decoded as what it was, whatever comes behind it, and it
decodes nothing else. -/
structure Codec (α : Type) where
  Valid : α → Prop
  encode : α → List UInt8
  decode : List UInt8 → Option (α × List UInt8)
  decode_encode : ∀ x rest, Valid x → decode (encode x ++ rest) = some (x, rest)
  encode_of_decode : ∀ bs x rest, decode bs = some (x, rest) → Valid x ∧ bs = encode x ++ rest

namespace Codec

variable {α β : Type}

def byte : Codec UInt8 where
  Valid _ := True
  encode b := [b]
  decode
    | [] => none
    | b :: rest => some (b, rest)
  decode_encode _ _ _ := rfl
  encode_of_decode bs b rest h := by
    cases bs with
    | nil => cases h
    | cons b' bs =>
      cases h
      exact ⟨trivial, rfl⟩

def decodeString : List UInt8 → Option (List UInt8 × List UInt8)
  | [] => none
  | b :: bs => if b = 0 then some ([], bs) else (decodeString bs).map fun r => (b :: r.1, r.2)

theorem decodeString_append {s : List UInt8} (h : 0 ∉ s) (rest : List UInt8) :
    decodeString (s ++ 0 :: rest) = some (s, rest) := by
  induction s with
  | nil => rfl
  | cons b s ih =>
    rw [List.mem_cons, not_or] at h
    obtain ⟨hb, hs⟩ := h
    rw [List.cons_append, decodeString, if_neg (Ne.symm hb), ih hs]
    rfl

theorem eq_of_decodeString {bs s rest : List UInt8} (h : decodeString bs = some (s, rest)) :
    0 ∉ s ∧ bs = s ++ 0 :: rest := by
  induction bs generalizing s with
  | nil => cases h
  | cons b bs ih =>
    rw [decodeString] at h
    split at h
    case isTrue hb =>
      cases h
      exact ⟨List.not_mem_nil, by rw [hb, List.nil_append]⟩
    case isFalse hb =>
      obtain ⟨⟨s', rest'⟩, hdecode, heq⟩ := Option.map_eq_some_iff.mp h
      cases heq
      obtain ⟨hs, hbs⟩ := ih hdecode
      refine ⟨fun hmem => ?_, by rw [hbs, List.cons_append]⟩
      rcases List.mem_cons.mp hmem with heq | hmem
      · exact hb heq.symm
      · exact hs hmem

def zeroTerminated : Codec (List UInt8) where
  Valid s := 0 ∉ s
  encode s := s ++ [0]
  decode := decodeString
  decode_encode s rest h := by
    rw [List.append_assoc]
    exact decodeString_append h rest
  encode_of_decode bs s rest h := by
    rw [List.append_assoc]
    exact eq_of_decodeString h

def pair (f : Codec α) (g : α → Codec β) : Codec (α × β) where
  Valid x := f.Valid x.1 ∧ (g x.1).Valid x.2
  encode x := f.encode x.1 ++ (g x.1).encode x.2
  decode bs :=
    (f.decode bs).bind fun r => ((g r.1).decode r.2).map fun r' => ((r.1, r'.1), r'.2)
  decode_encode x rest h := by
    rw [List.append_assoc, f.decode_encode _ _ h.1, Option.bind_some,
      (g x.1).decode_encode _ _ h.2]
    rfl
  encode_of_decode bs x rest h := by
    obtain ⟨⟨y, bs'⟩, hf, h⟩ := Option.bind_eq_some_iff.mp h
    obtain ⟨⟨z, bs''⟩, hg, heq⟩ := Option.map_eq_some_iff.mp h
    cases heq
    obtain ⟨hy, rfl⟩ := f.encode_of_decode _ _ _ hf
    obtain ⟨hz, rfl⟩ := (g y).encode_of_decode _ _ _ hg
    exact ⟨⟨hy, hz⟩, (List.append_assoc _ _ _).symm⟩

def optional (b : Bool) (f : Codec α) : Codec (Option α) where
  Valid x := x.isSome = b ∧ ∀ y, x = some y → f.Valid y
  encode
    | none => []
    | some y => f.encode y
  decode bs := if b then (f.decode bs).map fun r => (some r.1, r.2) else some (none, bs)
  decode_encode x rest h := by
    obtain ⟨rfl, hy⟩ := h
    cases x with
    | none => rfl
    | some y =>
      rw [Option.isSome_some, if_pos rfl, f.decode_encode _ _ (hy y rfl)]
      rfl
  encode_of_decode bs x rest h := by
    cases b with
    | false =>
      cases h
      exact ⟨⟨rfl, nofun⟩, rfl⟩
    | true =>
      obtain ⟨⟨y, rest'⟩, hf, heq⟩ := Option.map_eq_some_iff.mp h
      cases heq
      obtain ⟨hy, rfl⟩ := f.encode_of_decode _ _ _ hf
      exact ⟨⟨rfl, fun z hz => Option.some.inj hz ▸ hy⟩, rfl⟩

theorem valid_optional {b : Bool} {f : Codec α} {y : α} (h : b = true → f.Valid y) :
    (optional b f).Valid (if b then some y else none) := by
  cases b with
  | false => exact ⟨rfl, nofun⟩
  | true => exact ⟨rfl, fun z hz => Option.some.inj hz ▸ h rfl⟩

def iso (f : Codec α) (e : α ≃ β) : Codec β where
  Valid y := f.Valid (e.symm y)
  encode y := f.encode (e.symm y)
  decode bs := (f.decode bs).map fun r => (e r.1, r.2)
  decode_encode y rest h := by
    rw [f.decode_encode _ _ h, Option.map_some, e.apply_symm_apply]
  encode_of_decode bs y rest h := by
    obtain ⟨⟨x, rest'⟩, hf, heq⟩ := Option.map_eq_some_iff.mp h
    cases heq
    rw [e.symm_apply_apply]
    exact f.encode_of_decode _ _ _ hf

def nil : Codec (List α) where
  Valid xs := xs = []
  encode _ := []
  decode bs := some ([], bs)
  decode_encode xs rest h := by rw [h, List.nil_append]
  encode_of_decode bs xs rest h := by
    cases h
    exact ⟨rfl, rfl⟩

def cons (f : Codec α) (g : Codec (List α)) : Codec (List α) where
  Valid
    | [] => False
    | x :: xs => f.Valid x ∧ g.Valid xs
  encode
    | [] => []
    | x :: xs => f.encode x ++ g.encode xs
  decode bs := (f.decode bs).bind fun r => (g.decode r.2).map fun r' => (r.1 :: r'.1, r'.2)
  decode_encode xs rest h := by
    cases xs with
    | nil => exact h.elim
    | cons x xs =>
      dsimp only
      rw [List.append_assoc, f.decode_encode _ _ h.1, Option.bind_some, g.decode_encode _ _ h.2]
      rfl
  encode_of_decode bs xs rest h := by
    obtain ⟨⟨y, bs'⟩, hf, h⟩ := Option.bind_eq_some_iff.mp h
    obtain ⟨⟨ys, bs''⟩, hg, heq⟩ := Option.map_eq_some_iff.mp h
    cases heq
    obtain ⟨hy, rfl⟩ := f.encode_of_decode _ _ _ hf
    obtain ⟨hys, rfl⟩ := g.encode_of_decode _ _ _ hg
    exact ⟨⟨hy, hys⟩, (List.append_assoc _ _ _).symm⟩

def repeated : Nat → Codec α → Codec (List α)
  | 0, _ => nil
  | n + 1, f => cons f (repeated n f)

theorem valid_repeated {f : Codec α} {n : Nat} {xs : List α} (h : xs.length = n)
    (hxs : ∀ x ∈ xs, f.Valid x) : (repeated n f).Valid xs := by
  subst h
  induction xs with
  | nil => rfl
  | cons x xs ih =>
    exact ⟨hxs x List.mem_cons_self, ih fun y hy => hxs y (List.mem_cons_of_mem _ hy)⟩

theorem encode_repeated {f : Codec α} {n : Nat} {xs : List α} (h : (repeated n f).Valid xs) :
    (repeated n f).encode xs = xs.flatMap f.encode := by
  induction n generalizing xs with
  | zero =>
    cases (show xs = [] from h)
    rfl
  | succ n ih =>
    cases xs with
    | nil => exact h.elim
    | cons x xs => exact congrArg (f.encode x ++ ·) (ih h.2)

theorem length_of_valid_repeated {f : Codec α} {n : Nat} {xs : List α}
    (h : (repeated n f).Valid xs) : xs.length = n := by
  induction n generalizing xs with
  | zero => exact congrArg List.length (show xs = [] from h)
  | succ n ih =>
    cases xs with
    | nil => exact h.elim
    | cons x xs => exact congrArg (· + 1) (ih h.2)

def decodeAll (f : Codec α) (bs : List UInt8) : Option α :=
  match f.decode bs with
  | some (x, []) => some x
  | _ => none

theorem decodeAll_eq_some_iff {f : Codec α} {bs : List UInt8} {x : α} :
    f.decodeAll bs = some x ↔ f.Valid x ∧ bs = f.encode x := by
  unfold decodeAll
  constructor
  · intro h
    split at h
    case h_1 y hdecode =>
      cases h
      obtain ⟨hy, hbs⟩ := f.encode_of_decode _ _ _ hdecode
      exact ⟨hy, hbs.trans (List.append_nil _)⟩
    case h_2 => cases h
  · rintro ⟨hx, rfl⟩
    have hdecode := f.decode_encode x [] hx
    rw [List.append_nil] at hdecode
    rw [hdecode]

end Codec

end LonStack.Lib
