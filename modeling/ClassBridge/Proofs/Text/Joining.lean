/-
  ClassBridge.Proofs.Text.Joining
  ───────────────────────────────
  **Parts put one behind another fill a buffer.**

  Parts are placed by two loops that share one position: over the parts, and
  over the bytes of each.  Together they do what one loop does over the bytes
  of all parts in a row (`placements_eq`).  Carrying that out turns a buffer
  `done ++ rest`, with `done` in front of the first position, into

      done ++ the parts ++ what is left of rest

  so the position reached is always the length of what is done.  A buffer of
  the total length is left without rest: `join_totalLength`.
-/
import ClassBridge.Text.Buffer

namespace ClassBridge.Buffer

/-! ## §1. Placements on lists. -/

/-- One placement carried out on a list. -/
def put (bytes : List UInt8) (p : Placement) : List UInt8 := bytes.set p.position p.byte

theorem toList_place {size : Nat} (buffer : Buffer size) (p : Placement) :
    (place buffer p).toList = put buffer.toList p := by
  simp [place, put, Vector.toList_setIfInBounds]

theorem toList_foldl_place {size : Nat} (ps : List Placement) (buffer : Buffer size) :
    (ps.foldl place buffer).toList = ps.foldl put buffer.toList := by
  induction ps generalizing buffer with
  | nil => rfl
  | cons p ps ih => rw [List.foldl_cons, List.foldl_cons, ih, toList_place]

/-! ## §2. Two loops as one. -/

/-- The placements of some bytes from a position on. -/
def placed (position : Nat) (bytes : List UInt8) : List Placement := (placePart position bytes).1

@[simp] theorem placed_nil (position : Nat) : placed position [] = [] := rfl

theorem placed_cons (position : Nat) (b : UInt8) (bytes : List UInt8) :
    placed position (b :: bytes) = ⟨position, b⟩ :: placed (position + 1) bytes := rfl

/-- The position that a part leaves is the one it was given, moved by its
length. -/
theorem position_placePart (position : Nat) (part : List UInt8) :
    (placePart position part).2 = position + part.length := by
  induction part generalizing position with
  | nil => rfl
  | cons b part ih =>
    show (placePart (position + 1) part).2 = _
    rw [ih, List.length_cons]
    omega

theorem placements_cons (position : Nat) (part : List UInt8) (rest : List (List UInt8)) :
    placements position (part :: rest)
      = placed position part ++ placements (position + part.length) rest := by
  rw [← position_placePart]
  rfl

theorem placed_append (position : Nat) (front back : List UInt8) :
    placed position (front ++ back)
      = placed position front ++ placed (position + front.length) back := by
  induction front generalizing position with
  | nil => rfl
  | cons b front ih =>
    have hpos : position + 1 + front.length = position + (b :: front).length := by
      rw [List.length_cons]
      omega
    rw [List.cons_append, placed_cons, ih, placed_cons, List.cons_append, hpos]

/-- **The parts are placed as their bytes in a row would be.** -/
theorem placements_eq (position : Nat) (parts : List (List UInt8)) :
    placements position parts = placed position parts.flatten := by
  induction parts generalizing position with
  | nil => rfl
  | cons part rest ih => rw [placements_cons, ih, List.flatten_cons, placed_append]

/-! ## §3. The position is the length of what is done. -/

/-- The bytes of one part behind what is done. -/
theorem foldl_put_placed (part done rest : List UInt8) (h : part.length ≤ rest.length) :
    (placed done.length part).foldl put (done ++ rest)
      = done ++ part ++ rest.drop part.length := by
  induction part generalizing done rest with
  | nil => simp
  | cons b part ih =>
    cases rest with
    | nil => simp at h
    | cons c rest =>
      -- the byte takes the place right behind what is done
      have hput : put (done ++ c :: rest) ⟨done.length, b⟩ = (done ++ [b]) ++ rest := by
        simp [put]
      have hlen : done.length + 1 = (done ++ [b]).length := by simp
      have hle : part.length ≤ rest.length := by simpa using h
      rw [placed_cons, List.foldl_cons, hput, hlen, ih (done ++ [b]) rest hle]
      simp

theorem length_flatten (parts : List (List UInt8)) :
    parts.flatten.length = totalLength parts := by
  induction parts with
  | nil => rfl
  | cons part parts ih => rw [List.flatten_cons, List.length_append, ih, totalLength_cons]

/-- All parts behind what is done. -/
theorem foldl_put_placements (parts : List (List UInt8)) (done rest : List UInt8)
    (h : totalLength parts ≤ rest.length) :
    (placements done.length parts).foldl put (done ++ rest)
      = done ++ parts.flatten ++ rest.drop (totalLength parts) := by
  rw [← length_flatten] at h
  rw [placements_eq, foldl_put_placed parts.flatten done rest h, length_flatten]

/-! ## §4. The joined buffer. -/

/-- **A buffer of the total length holds the parts in order.** -/
theorem join_totalLength (parts : List (List UInt8)) :
    join (totalLength parts) parts = .ok (ofList parts.flatten (length_flatten parts)) := by
  rw [join, if_pos rfl]
  congr 1
  refine Vector.toList_inj.1 ?_
  have hfill := foldl_put_placements parts [] (List.replicate (totalLength parts) 0) (by simp)
  rw [toList_foldl_place, toList_ofList, Vector.toList_replicate]
  simpa using hfill

end ClassBridge.Buffer
