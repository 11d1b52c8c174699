/-
  ClassBridge.Proofs.Naming.Counting
  ──────────────────────────────────
  **How far the bytes of a segment can be counted.**

  The check counts the bytes of a segment in a word.  Up to 2³¹ - 1 of them the
  count is their number, in both kinds of additions; the next byte is a fault of
  checked ones, and makes the others go on at the smallest negative number:

      counts_ofNat     the count, as long as it fits
      counts_faults    checked additions, where it does not
      counts_wraps     the others, however many there are

  The bytes between two separators are counted one after another
  (`scan_append`), so a first segment that is too long is refused
  (`checkWith_of_long`), and checked additions accept nothing with a long
  segment in it anywhere (`shortSegments_of_check`).
-/
import ClassBridge.QualifiedName
import ClassBridge.Proofs.Text.Encoding

namespace ClassBridge.QualifiedName

/-! ## §1. Counting. -/

/-- The first number of bytes that is no length of a segment, 2³¹. -/
def countLimit : Nat := 2147483648

/-- Counts some more bytes of a segment. -/
def counts (o : Overflow) (segmentLength : Int32) : Nat → Except Fault Int32
  | 0 => .ok segmentLength
  | k + 1 =>
    match count o segmentLength with
    | .ok longer => counts o longer k
    | .error f => .error f

theorem count_ofNat (o : Overflow) {n : Nat} (h : n + 1 < countLimit) :
    count o (Int32.ofNat n) = .ok (Int32.ofNat (n + 1)) := by
  have hn : n < 2 ^ 31 := by
    unfold countLimit at h
    omega
  have hne : Int32.ofNat n ≠ Int32.maxValue := by
    intro heq
    have hint := congrArg Int32.toInt heq
    rw [Int32.toInt_ofNat_of_lt hn, Int32.toInt_maxValue] at hint
    unfold countLimit at h
    omega
  cases o with
  | faults => rw [count, if_neg hne, Int32.ofNat_add]; rfl
  | wraps => rw [count, Int32.ofNat_add]; rfl

/-- As long as the count fits its word, it is the number of bytes. -/
theorem counts_ofNat (o : Overflow) {n k : Nat} (h : n + k < countLimit) :
    counts o (Int32.ofNat n) k = .ok (Int32.ofNat (n + k)) := by
  induction k generalizing n with
  | zero => rfl
  | succ k ih =>
    rw [counts, count_ofNat o (by omega)]
    show counts o (Int32.ofNat (n + 1)) k = _
    rw [ih (by omega), Nat.add_right_comm, Nat.add_assoc]

/-- The addition that does not fit is a fault. -/
theorem counts_faults {n k : Nat} (hn : n < countLimit) (h : countLimit ≤ n + k) :
    counts .faults (Int32.ofNat n) k = .error .overflow := by
  induction k generalizing n with
  | zero => omega
  | succ k ih =>
    rw [counts]
    by_cases hlast : n + 1 < countLimit
    · rw [count_ofNat .faults hlast]
      exact ih hlast (by omega)
    · have hmax : n = countLimit - 1 := by omega
      rw [hmax]
      rfl

/-- Without faults the count goes on for ever. -/
theorem counts_wraps (n k : Nat) :
    counts .wraps (Int32.ofNat n) k = .ok (Int32.ofNat (n + k)) := by
  induction k generalizing n with
  | zero => rfl
  | succ k ih =>
    have hcount : count .wraps (Int32.ofNat n) = .ok (Int32.ofNat (n + 1)) := by
      rw [count, Int32.ofNat_add]
      rfl
    rw [counts, hcount]
    show counts .wraps (Int32.ofNat (n + 1)) k = _
    rw [ih, Nat.add_right_comm, Nat.add_assoc]

theorem endSegment_ofNat {n : Nat} (h : n < countLimit) :
    endSegment (Int32.ofNat n) = if 0 < n then .ok () else .error .emptySegment := by
  have hpos : (0 : Int32) < Int32.ofNat n ↔ 0 < n := Int32.ofNat_lt_iff_lt (by decide) h
  unfold endSegment
  simp only [hpos]

/-- Bytes that are no separators are counted. -/
theorem scan_append (o : Overflow) {bytes : List UInt8} (h : ∀ b ∈ bytes, b ≠ slash ∧ b ≠ dot)
    (n : Int32) (rest : List UInt8) :
    scan o n (bytes ++ rest)
      = match counts o n bytes.length with
        | .ok m => scan o m rest
        | .error f => .error f := by
  induction bytes generalizing n with
  | nil => rfl
  | cons b bytes ih =>
    obtain ⟨hslash, hdot⟩ := h b List.mem_cons_self
    have hbytes : ∀ d ∈ bytes, d ≠ slash ∧ d ≠ dot := fun d hd => h d (List.mem_cons_of_mem b hd)
    rw [List.cons_append, scan, if_neg hslash, if_neg hdot, List.length_cons, counts]
    cases count o n with
    | ok longer => exact ih hbytes longer
    | error f => rfl

/-! ## §2. Characters in bytes. -/

/-- How many bytes some characters take. -/
def byteCount (s : List Char) : Nat := (s.flatMap String.utf8EncodeChar).length

theorem byteCount_append (s t : List Char) : byteCount (s ++ t) = byteCount s + byteCount t := by
  simp [byteCount]

theorem byteCount_pos {s : List Char} (h : s ≠ []) : 0 < byteCount s := by
  obtain ⟨c, cs, rfl⟩ := List.exists_cons_of_ne_nil h
  have hc := c.utf8Size_pos
  rw [← String.length_utf8EncodeChar] at hc
  rw [byteCount, List.flatMap_cons, List.length_append]
  omega

/-- No stretch of the text between separators is too long to be counted. -/
def ShortSegments (text : List Char) : Prop :=
  ∀ s, s <:+: text → '.' ∉ s → '/' ∉ s → byteCount s < countLimit

theorem ShortSegments.infix {text part : List Char} (h : ShortSegments text)
    (hpart : part <:+: text) : ShortSegments part :=
  fun s hs => h s (hs.trans hpart)

/-- A text that can be counted as a whole has no long segments. -/
theorem shortSegments_of_byteCount {text : List Char} (h : byteCount text < countLimit) :
    ShortSegments text := by
  intro s hs _ _
  obtain ⟨before, behind, rfl⟩ := hs
  rw [byteCount_append, byteCount_append] at h
  omega

theorem byteOf_slash : Utf8.byteOf '/' = slash := by decide

theorem byteOf_dot : Utf8.byteOf '.' = dot := by decide

/-- No byte of another character is taken for a separator. -/
theorem ne_of_mem_encodeChar {c : Char} (hslash : c ≠ '/') (hdot : c ≠ '.') {b : UInt8}
    (hb : b ∈ String.utf8EncodeChar c) : b ≠ slash ∧ b ≠ dot := by
  constructor
  · intro h
    rw [h, ← byteOf_slash] at hb
    exact hslash ((Utf8.byteOf_mem_encodeChar (by decide)).1 hb)
  · intro h
    rw [h, ← byteOf_dot] at hb
    exact hdot ((Utf8.byteOf_mem_encodeChar (by decide)).1 hb)

theorem ne_of_mem_encode {s : List Char} (hdot : '.' ∉ s) (hslash : '/' ∉ s) {b : UInt8}
    (hb : b ∈ s.flatMap String.utf8EncodeChar) : b ≠ slash ∧ b ≠ dot := by
  obtain ⟨c, hc, hb⟩ := List.mem_flatMap.1 hb
  refine ne_of_mem_encodeChar ?_ ?_ hb
  · rintro rfl
    exact hslash hc
  · rintro rfl
    exact hdot hc

/-- Characters that are no separators are counted by their bytes. -/
theorem scan_encode_append (o : Overflow) {s : List Char} (hdot : '.' ∉ s) (hslash : '/' ∉ s)
    (n : Int32) (rest : List UInt8) :
    scan o n (s.flatMap String.utf8EncodeChar ++ rest)
      = match counts o n (byteCount s) with
        | .ok m => scan o m rest
        | .error f => .error f :=
  scan_append o (fun _ => ne_of_mem_encode hdot hslash) n rest

theorem scan_slash (o : Overflow) (n : Int32) (rest : List UInt8) :
    scan o n (String.utf8EncodeChar '/' ++ rest) = .error .wrongSeparator := by
  rw [Utf8.encodeChar_ascii (by decide), byteOf_slash]
  show scan o n (slash :: rest) = _
  rw [scan, if_pos rfl]

/-- Behind a segment that ends well, a dot starts the next one. -/
theorem scan_dot_of_ok {o : Overflow} {n : Int32} (h : endSegment n = .ok ()) (rest : List UInt8) :
    scan o n (String.utf8EncodeChar '.' ++ rest) = scan o 0 rest := by
  rw [Utf8.encodeChar_ascii (by decide), byteOf_dot]
  show scan o n (dot :: rest) = _
  simp only [scan, if_neg (show dot ≠ slash by decide), if_true, h]

theorem scan_dot_of_error {o : Overflow} {n : Int32} {f : Fault} (h : endSegment n = .error f)
    (rest : List UInt8) : scan o n (String.utf8EncodeChar '.' ++ rest) = .error f := by
  rw [Utf8.encodeChar_ascii (by decide), byteOf_dot]
  show scan o n (dot :: rest) = _
  simp only [scan, if_neg (show dot ≠ slash by decide), if_true, h]

/-! ## §3. Segments that are too long. -/

/-- The rest of an accepted name is accepted, from some count on. -/
theorem exists_scan_behind {bytes rest : List UInt8} {n : Nat} (hn : n < countLimit)
    (h : scan .faults (Int32.ofNat n) (bytes ++ rest) = .ok ()) :
    ∃ m < countLimit, scan .faults (Int32.ofNat m) rest = .ok () := by
  induction bytes generalizing n with
  | nil => exact ⟨n, hn, h⟩
  | cons b bytes ih =>
    rw [List.cons_append, scan] at h
    by_cases hslash : b = slash
    · rw [if_pos hslash] at h
      cases h
    rw [if_neg hslash] at h
    by_cases hdot : b = dot
    · rw [if_pos hdot] at h
      split at h
      · exact ih (show 0 < countLimit by decide) h
      · cases h
    · rw [if_neg hdot] at h
      by_cases hlast : n + 1 < countLimit
      · rw [count_ofNat .faults hlast] at h
        exact ih hlast h
      · have hmax : n = countLimit - 1 := by omega
        rw [hmax] at h
        cases h

/-- Checked additions only accept what they can count. -/
theorem shortSegments_of_check {name : String} (h : check name = .ok ()) :
    ShortSegments name.toList := by
  intro s hs hdot hslash
  obtain ⟨before, behind, hname⟩ := hs
  have hscan : scan .faults (Int32.ofNat 0) (Utf8.encode name) = .ok () := by
    unfold check checkWith at h
    split at h
    · cases h
    · exact h
  have hbytes : Utf8.encode name = before.flatMap String.utf8EncodeChar
      ++ (s.flatMap String.utf8EncodeChar ++ behind.flatMap String.utf8EncodeChar) := by
    rw [Utf8.encode, ← hname]
    simp
  rw [hbytes] at hscan
  obtain ⟨m, hm, hrest⟩ := exists_scan_behind (by decide) hscan
  rw [scan_encode_append .faults hdot hslash] at hrest
  refine Nat.not_le.1 ?_
  intro hlong
  rw [counts_faults hm (by omega)] at hrest
  cases hrest

/-- A first segment that is too long is never accepted as it is: its count
faults, or is taken for that of an empty segment. -/
theorem checkWith_of_long {s : List Char} (hdot : '.' ∉ s) (hslash : '/' ∉ s)
    (h : countLimit ≤ byteCount s) :
    (∀ rest, check (String.ofList (s ++ rest)) = .error .overflow)
      ∧ (byteCount s < 2 * countLimit →
          checkWith .wraps (String.ofList s) = .error .emptySegment) := by
  have hcheck : ∀ o rest, checkWith o (String.ofList (s ++ rest))
      = match counts o (Int32.ofNat 0) (byteCount s) with
        | .ok m => scan o m (rest.flatMap String.utf8EncodeChar)
        | .error f => .error f := by
    intro o rest
    rw [← scan_encode_append o hdot hslash, checkWith, Utf8.encode_ofList, List.flatMap_append]
    split
    · next hbytes =>
      rw [byteCount, (List.append_eq_nil_iff.1 hbytes).1] at h
      cases h
    · rfl
  constructor
  · intro rest
    rw [check, hcheck, counts_faults (by decide) (by omega)]
  · intro hwrap
    -- such a count is negative
    have hend : ¬ (0 : Int32) < Int32.ofNat (byteCount s) := by
      unfold countLimit at h hwrap
      rw [Int32.lt_iff_toInt_lt, Int32.toInt_ofNat', Int.bmod]
      show ¬ (0 : Int) < _
      simp only [Int32.size]
      split <;> omega
    have hs := hcheck .wraps []
    rw [List.append_nil, counts_wraps, Nat.zero_add] at hs
    rw [hs]
    exact if_neg hend

end ClassBridge.QualifiedName
