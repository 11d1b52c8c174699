/-
  ClassBridge.Proofs.Naming.Segments
  ──────────────────────────────────
  **Which texts are qualified names.**

  The check runs over bytes and counts them, but what it decides is a matter of
  characters, as long as the count fits its word.  It can be said in three
  ways:

      Segmented       segments with a single dot between each two, none of them
                      empty or with a dot or a slash in it
      FirstOffence    the leftmost place where a text fails to be so, and how
      checkChars      the same check on characters, which only remembers
                      whether the segment has begun

  A character beyond ASCII counts as several bytes, all of them 128 or more, so
  none of them is taken for a separator, and the segment has begun with the
  first (`scan_encode`).

  Main statement: `check_decides` — where the segments are short enough to be
  counted, the check accepts exactly the segmented texts, and refuses any other
  for the leftmost offence in it.  With checked additions a longer segment is
  always a reason to refuse (`check_eq_ok_iff`).
-/
import ClassBridge.Proofs.Naming.Counting

namespace ClassBridge.QualifiedName

/-! ## §1. The check on characters. -/

/-- Checks the rest of a name on its characters; `begun` says whether the
current segment has begun. -/
def scanChars (begun : Bool) : List Char → Except Fault Unit
  | [] => if begun then .ok () else .error .emptySegment
  | c :: rest =>
    if c = '/' then .error .wrongSeparator
    else if c = '.' then
      if begun then scanChars false rest else .error .emptySegment
    else scanChars true rest

/-- Checks a name on its characters. -/
def checkChars : List Char → Except Fault Unit
  | [] => .error .empty
  | cs => scanChars false cs

/-- A segment that can be counted ends well if it has any characters. -/
theorem endSegment_byteCount {begun : List Char} (h : byteCount begun < countLimit) :
    endSegment (Int32.ofNat (byteCount begun))
      = if (!begun.isEmpty) = true then .ok () else .error .emptySegment := by
  rw [endSegment_ofNat h]
  cases begun with
  | nil => rfl
  | cons c begun => rw [if_pos (byteCount_pos (by simp)), if_pos (by simp)]

/-- **The scan of the bytes is the scan of the characters**, where `begun` are
those of the current segment that have been passed.  If no segment is too long,
their bytes only count for whether there are any. -/
theorem scan_encode (o : Overflow) {begun cs : List Char} (hdot : '.' ∉ begun)
    (hslash : '/' ∉ begun) (h : ShortSegments (begun ++ cs)) :
    scan o (Int32.ofNat (byteCount begun)) (cs.flatMap String.utf8EncodeChar)
      = scanChars (!begun.isEmpty) cs := by
  induction cs generalizing begun with
  | nil => exact endSegment_byteCount (h begun (List.prefix_append begun []).isInfix hdot hslash)
  | cons c cs ih =>
    rw [List.flatMap_cons, scanChars]
    by_cases hc : c = '/'
    · rw [if_pos hc, hc, scan_slash]
    rw [if_neg hc]
    by_cases hd : c = '.'
    · have hend := endSegment_byteCount
        (h begun (List.prefix_append begun (c :: cs)).isInfix hdot hslash)
      rw [if_pos hd, hd]
      cases begun with
      | nil => exact scan_dot_of_error hend _
      | cons d begun =>
        rw [scan_dot_of_ok hend]
        -- the next segment starts with no characters
        have hrest : cs <:+: d :: begun ++ c :: cs := ⟨d :: begun ++ [c], [], by simp⟩
        have hshort : ShortSegments ([] ++ cs) := h.infix hrest
        exact ih (by simp) (by simp) hshort
    · have hdot' : '.' ∉ begun ++ [c] := by simp [hdot, Ne.symm hd]
      have hslash' : '/' ∉ begun ++ [c] := by simp [hslash, Ne.symm hc]
      have hshort : ShortSegments (begun ++ [c] ++ cs) := by simpa using h
      have hcount := hshort _ (List.prefix_append (begun ++ [c]) cs).isInfix hdot' hslash'
      have hlength : byteCount begun + (String.utf8EncodeChar c).length
          = byteCount (begun ++ [c]) := by
        simp [byteCount]
      rw [if_neg hd, scan_append o fun _ => ne_of_mem_encodeChar hc hd,
        counts_ofNat o (by omega), hlength]
      have hbegun : (!(begun ++ [c]).isEmpty) = true := by simp
      show scan o (Int32.ofNat (byteCount (begun ++ [c]))) _ = _
      rw [ih hdot' hslash' hshort, hbegun]

theorem checkWith_eq_checkChars (o : Overflow) {name : String}
    (h : ShortSegments name.toList) : checkWith o name = checkChars name.toList := by
  have hshort : ShortSegments ([] ++ name.toList) := h
  have hscan : scan o 0 (Utf8.encode name) = scanChars false name.toList :=
    scan_encode o (by simp) (by simp) hshort
  unfold checkWith checkChars
  cases hcs : name.toList with
  | nil =>
    have hbytes : Utf8.encode name = [] := by simp [Utf8.encode, hcs]
    rw [hbytes]
  | cons c cs =>
    rw [hcs] at hscan
    split
    · next hbytes =>
      -- no character is written in no bytes
      have hpos := byteCount_pos (show name.toList ≠ [] by simp [hcs])
      rw [byteCount, show name.toList.flatMap String.utf8EncodeChar = [] from hbytes] at hpos
      cases hpos
    · exact hscan

/-! ## §2. The leftmost offence. -/

/-- Where a segment starts: at the start of the text, and behind a dot. -/
def AtSegmentStart (before : List Char) : Prop :=
  before = [] ∨ ∃ earlier, before = earlier ++ ['.']

/-- What is wrong at the place with `before` on its left and the given text on
its right. -/
inductive Offence (before : List Char) : List Char → Fault → Prop where
  /-- A slash is wrong everywhere. -/
  | slash (rest : List Char) : Offence before ('/' :: rest) .wrongSeparator
  /-- A dot is wrong where a segment starts. -/
  | dot (rest : List Char) (start : AtSegmentStart before) :
      Offence before ('.' :: rest) .emptySegment
  /-- And so is the end. -/
  | atEnd (start : AtSegmentStart before) : Offence before [] .emptySegment

/-- The leftmost offence among the places of a text with `before` on its left. -/
def FirstOffence (before text : List Char) (f : Fault) : Prop :=
  ∃ passed ahead, text = passed ++ ahead ∧ Offence (before ++ passed) ahead f
    ∧ ∀ p a, text = p ++ a → p.length < passed.length → ∀ g, ¬ Offence (before ++ p) a g

theorem Offence.unique {before rest : List Char} {f g : Fault} (hf : Offence before rest f)
    (hg : Offence before rest g) : f = g := by
  cases hf <;> cases hg <;> rfl

theorem not_atSegmentStart_append {c : Char} (hc : c ≠ '.') (before : List Char) :
    ¬ AtSegmentStart (before ++ [c]) := by
  intro h
  rcases h with h | ⟨earlier, h⟩
  · simp at h
  · exact hc (List.cons.inj (List.append_inj' h rfl).2).1

/-- An offence at the first place is the leftmost. -/
theorem firstOffence_of_offence {before text : List Char} {f g : Fault}
    (h : Offence before text g) : FirstOffence before text f ↔ g = f := by
  constructor
  · intro hf
    obtain ⟨passed, ahead, htext, hoffence, hleft⟩ := hf
    cases passed with
    | nil =>
      rw [List.append_nil] at hoffence
      rw [show text = ahead from htext] at h
      exact h.unique hoffence
    | cons c passed =>
      refine absurd ?_ (hleft [] text rfl (by simp) g)
      rwa [List.append_nil]
  · intro hg
    subst hg
    refine ⟨[], text, rfl, by rwa [List.append_nil], ?_⟩
    intro p a _ hp
    exact absurd hp (Nat.not_lt_zero _)

/-- Where the first place is without offence, it is passed. -/
theorem firstOffence_cons {before rest : List Char} {c : Char} {f : Fault}
    (h : ∀ g, ¬ Offence before (c :: rest) g) :
    FirstOffence before (c :: rest) f ↔ FirstOffence (before ++ [c]) rest f := by
  have hmove : ∀ p : List Char, before ++ c :: p = before ++ [c] ++ p := by
    intro p
    simp
  constructor
  · intro hf
    obtain ⟨passed, ahead, htext, hoffence, hleft⟩ := hf
    cases passed with
    | nil =>
      rw [List.append_nil, ← show c :: rest = ahead from htext] at hoffence
      exact absurd hoffence (h f)
    | cons d passed =>
      obtain ⟨rfl, rfl⟩ := List.cons.inj htext
      refine ⟨passed, ahead, rfl, by rwa [← hmove], ?_⟩
      intro p a hp hlt
      rw [← hmove]
      exact hleft (c :: p) a (by rw [hp, List.cons_append]) (by simpa using hlt)
  · intro hf
    obtain ⟨passed, ahead, rfl, hoffence, hleft⟩ := hf
    refine ⟨c :: passed, ahead, rfl, by rwa [hmove], ?_⟩
    intro p a hp hlt
    cases p with
    | nil =>
      rw [List.append_nil, ← show c :: (passed ++ ahead) = a from hp]
      exact h
    | cons d p =>
      obtain ⟨rfl, hp'⟩ := List.cons.inj hp
      rw [hmove]
      exact hleft p a hp' (by simpa using hlt)

/-- At the end of the text no place is left. -/
theorem not_firstOffence_nil {before : List Char} {f : Fault} (h : ¬ AtSegmentStart before) :
    ¬ FirstOffence before [] f := by
  intro hf
  obtain ⟨passed, ahead, htext, hoffence, _⟩ := hf
  obtain ⟨rfl, rfl⟩ := List.append_eq_nil_iff.1 htext.symm
  rw [List.append_nil] at hoffence
  cases hoffence with
  | atEnd start => exact h start

/-- **The scan stops at the leftmost offence.**  What it carries along says
whether the place it has come to is the start of a segment. -/
theorem scanChars_eq_error_iff {begun : Bool} {before text : List Char} {f : Fault}
    (h : begun = true ↔ ¬ AtSegmentStart before) :
    scanChars begun text = .error f ↔ FirstOffence before text f := by
  induction text generalizing begun before with
  | nil =>
    cases begun with
    | true => simp [scanChars, not_firstOffence_nil (h.1 rfl)]
    | false =>
      have hstart : AtSegmentStart before := by simpa using h
      rw [firstOffence_of_offence (.atEnd hstart)]
      simp [scanChars]
  | cons c text ih =>
    rw [scanChars]
    by_cases hslash : c = '/'
    · subst hslash
      rw [if_pos rfl, firstOffence_of_offence (.slash text), Except.error.injEq]
    rw [if_neg hslash]
    by_cases hdot : c = '.'
    · subst hdot
      rw [if_pos rfl]
      cases begun with
      | true =>
        have hfine : ∀ g, ¬ Offence before ('.' :: text) g := by
          intro g hg
          cases hg with
          | dot _ start => exact h.1 rfl start
        have hstart : AtSegmentStart (before ++ ['.']) := .inr ⟨before, rfl⟩
        rw [if_pos rfl, firstOffence_cons hfine]
        exact ih (by simpa using hstart)
      | false =>
        have hstart : AtSegmentStart before := by simpa using h
        rw [firstOffence_of_offence (.dot text hstart)]
        simp
    · rw [if_neg hdot]
      have hfine : ∀ g, ¬ Offence before (c :: text) g := by
        intro g hg
        cases hg with
        | slash => exact hslash rfl
        | dot => exact hdot rfl
      rw [firstOffence_cons hfine]
      exact ih (by simpa using not_atSegmentStart_append hdot before)

/-! ## §3. The segments of a name. -/

/-- What stands between two dots. -/
structure IsSegment (s : List Char) : Prop where
  nonempty : s ≠ []
  dot_free : '.' ∉ s
  slash_free : '/' ∉ s

/-- One or more segments, with a single dot between each two. -/
def Segmented (text : List Char) : Prop :=
  ∃ segments : List (List Char), segments ≠ [] ∧ (∀ s ∈ segments, IsSegment s)
    ∧ text = ['.'].intercalate segments

/-- A scan of other characters comes to their end, with the segment begun. -/
theorem scanChars_append {s : List Char} (hdot : '.' ∉ s) (hslash : '/' ∉ s) (begun : Bool)
    (rest : List Char) : scanChars begun (s ++ rest) = scanChars (begun || !s.isEmpty) rest := by
  induction s generalizing begun with
  | nil => simp
  | cons c s ih =>
    simp only [List.mem_cons, not_or] at hdot hslash
    rw [List.cons_append, scanChars, if_neg (Ne.symm hslash.1), if_neg (Ne.symm hdot.1),
      ih hdot.2 hslash.2]
    simp

theorem IsSegment.scanChars_append {s : List Char} (h : IsSegment s) (rest : List Char) :
    scanChars false (s ++ rest) = scanChars true rest := by
  have hbegun : (false || !s.isEmpty) = true := by
    simpa using h.nonempty
  rw [QualifiedName.scanChars_append h.dot_free h.slash_free, hbegun]

/-- Segments with dots between them are scanned to the end. -/
theorem scanChars_intercalate {s : List Char} {ss : List (List Char)} (hs : IsSegment s)
    (hss : ∀ t ∈ ss, IsSegment t) : scanChars false (['.'].intercalate (s :: ss)) = .ok () := by
  induction ss generalizing s with
  | nil =>
    rw [List.intercalate_singleton, ← List.append_nil s, hs.scanChars_append]
    rfl
  | cons t ss ih =>
    rw [List.intercalate_cons_cons, List.append_assoc, hs.scanChars_append]
    -- the dot behind the segment starts the next one
    show scanChars false (['.'].intercalate (t :: ss)) = .ok ()
    exact ih (hss t List.mem_cons_self) fun u hu => hss u (List.mem_cons_of_mem t hu)

/-- What is scanned to the end consists of the rest of the current segment and of
the segments behind it. -/
theorem exists_segments_of_scanChars {begun : Bool} {text : List Char}
    (h : scanChars begun text = .ok ()) :
    ∃ s ss, text = ['.'].intercalate (s :: ss) ∧ (begun = false → s ≠ []) ∧ '.' ∉ s ∧ '/' ∉ s
      ∧ ∀ t ∈ ss, IsSegment t := by
  induction text generalizing begun with
  | nil =>
    cases begun with
    | true => exact ⟨[], [], by simp, by simp, by simp, by simp, by simp⟩
    | false => cases h
  | cons c text ih =>
    rw [scanChars] at h
    by_cases hslash : c = '/'
    · rw [if_pos hslash] at h
      cases h
    rw [if_neg hslash] at h
    by_cases hdot : c = '.'
    · rw [if_pos hdot] at h
      cases begun with
      | false => cases h
      | true =>
        -- the current segment ends here, and the next one must not be empty
        obtain ⟨s, ss, htext, hs, hdots, hslashes, hss⟩ := ih h
        refine ⟨[], s :: ss, ?_, by simp, by simp, by simp, ?_⟩
        · rw [hdot, htext, List.intercalate_cons_cons]
          rfl
        · intro t ht
          rcases List.mem_cons.1 ht with rfl | ht
          · exact ⟨hs rfl, hdots, hslashes⟩
          · exact hss t ht
    · rw [if_neg hdot] at h
      obtain ⟨s, ss, htext, _, hdots, hslashes, hss⟩ := ih h
      refine ⟨c :: s, ss, by rw [htext, List.intercalate_cons_cons_left], by simp, ?_, ?_, hss⟩
      · simpa [hdots] using Ne.symm hdot
      · simpa [hslashes] using Ne.symm hslash

/-- The scan accepts exactly the segmented texts. -/
theorem scanChars_eq_ok_iff {text : List Char} :
    scanChars false text = .ok () ↔ Segmented text := by
  constructor
  · intro h
    obtain ⟨s, ss, htext, hs, hdot, hslash, hss⟩ := exists_segments_of_scanChars h
    refine ⟨s :: ss, by simp, ?_, htext⟩
    intro t ht
    rcases List.mem_cons.1 ht with rfl | ht
    · exact ⟨hs rfl, hdot, hslash⟩
    · exact hss t ht
  · intro h
    obtain ⟨segments, hne, hsegments, rfl⟩ := h
    obtain ⟨s, ss, rfl⟩ := List.exists_cons_of_ne_nil hne
    exact scanChars_intercalate (hsegments s List.mem_cons_self) fun t ht =>
      hsegments t (List.mem_cons_of_mem s ht)

/-- A character of joined segments is one of the separator or of a segment. -/
theorem mem_or_of_mem_intercalate {x : Char} {sep : List Char} {segments : List (List Char)}
    (h : x ∈ sep.intercalate segments) : x ∈ sep ∨ ∃ s ∈ segments, x ∈ s := by
  induction segments with
  | nil => simp at h
  | cons s segments ih =>
    cases segments with
    | nil =>
      rw [List.intercalate_singleton] at h
      exact .inr ⟨s, List.mem_cons_self, h⟩
    | cons t segments =>
      rw [List.intercalate_cons_cons, List.mem_append, List.mem_append] at h
      rcases h with (h | h) | h
      · exact .inr ⟨s, List.mem_cons_self, h⟩
      · exact .inl h
      · rcases ih h with hsep | ⟨u, hu, hx⟩
        · exact .inl hsep
        · exact .inr ⟨u, List.mem_cons_of_mem s hu, hx⟩

theorem mem_intercalate_of_mem {x : Char} {sep s : List Char} {segments : List (List Char)}
    (hs : s ∈ segments) (hx : x ∈ s) : x ∈ sep.intercalate segments := by
  induction segments with
  | nil => cases hs
  | cons t segments ih =>
    cases segments with
    | nil =>
      rw [List.mem_singleton.1 hs] at hx
      rwa [List.intercalate_singleton]
    | cons u segments =>
      rw [List.intercalate_cons_cons, List.mem_append, List.mem_append]
      rcases List.mem_cons.1 hs with rfl | hs
      · exact .inl (.inl hx)
      · exact .inr (ih hs)

/-! ## §4. What is accepted. -/

/-- What is accepted in bytes is accepted in characters; only at the start of a
segment is it known what has been counted. -/
theorem scanChars_of_scan {o : Overflow} {n : Int32} {begun : Bool} {cs : List Char}
    (hn : begun = false → n = 0)
    (h : scan o n (cs.flatMap String.utf8EncodeChar) = .ok ()) : scanChars begun cs = .ok () := by
  induction cs generalizing n begun with
  | nil =>
    cases begun with
    | true => rfl
    | false =>
      rw [hn rfl] at h
      cases h
  | cons c cs ih =>
    rw [List.flatMap_cons] at h
    rw [scanChars]
    by_cases hslash : c = '/'
    · rw [hslash, scan_slash] at h
      cases h
    rw [if_neg hslash]
    by_cases hdot : c = '.'
    · rw [hdot] at h
      rw [if_pos hdot]
      cases hend : endSegment n with
      | error f =>
        rw [scan_dot_of_error hend] at h
        cases h
      | ok _ =>
        rw [scan_dot_of_ok hend] at h
        cases begun with
        | true => exact ih (fun _ => rfl) h
        | false =>
          rw [hn rfl] at hend
          cases hend
    · rw [scan_append o fun _ => ne_of_mem_encodeChar hslash hdot] at h
      rw [if_neg hdot]
      split at h
      · exact ih (by simp) h
      · cases h

/-- Whatever is accepted consists of segments, however it is counted. -/
theorem segmented_of_checkWith {o : Overflow} {name : String} (h : checkWith o name = .ok ()) :
    Segmented name.toList := by
  have hscan : scan o 0 (Utf8.encode name) = .ok () := by
    unfold checkWith at h
    split at h
    · cases h
    · exact h
  exact scanChars_eq_ok_iff.1 (scanChars_of_scan (fun _ => rfl) hscan)

/-! ## §5. What the check decides. -/

theorem checkChars_eq_ok_iff {text : List Char} : checkChars text = .ok () ↔ Segmented text := by
  rw [← scanChars_eq_ok_iff]
  cases text with
  | nil => simp [checkChars, scanChars]
  | cons c text => rfl

/-- **Checked additions accept exactly the segmented texts whose segments can be
counted.** -/
theorem check_eq_ok_iff {name : String} :
    check name = .ok () ↔ Segmented name.toList ∧ ShortSegments name.toList := by
  constructor
  · intro h
    exact ⟨segmented_of_checkWith h, shortSegments_of_check h⟩
  · intro h
    obtain ⟨hsegmented, hshort⟩ := h
    rw [check, checkWith_eq_checkChars .faults hshort, checkChars_eq_ok_iff]
    exact hsegmented

/-- An accepted name holds no slash. -/
theorem slash_notMem_of_check {name : String} (h : check name = .ok ()) : '/' ∉ name.toList := by
  obtain ⟨segments, _, hsegments, hname⟩ := segmented_of_checkWith h
  intro hmem
  rw [hname] at hmem
  rcases mem_or_of_mem_intercalate hmem with hsep | ⟨s, hs, hslash⟩
  · exact absurd (List.mem_singleton.1 hsep) (by decide)
  · exact (hsegments s hs).slash_free hslash

/-- The empty text has a fault of its own. -/
theorem checkChars_eq_error_iff {text : List Char} {f : Fault} :
    checkChars text = .error f
      ↔ text = [] ∧ f = .empty ∨ text ≠ [] ∧ FirstOffence [] text f := by
  cases text with
  | nil => simp [checkChars, eq_comm]
  | cons c text =>
    have hstart : AtSegmentStart [] := .inl rfl
    have hscan : scanChars false (c :: text) = .error f ↔ FirstOffence [] (c :: text) f :=
      scanChars_eq_error_iff (by simpa using hstart)
    simpa [checkChars] using hscan

/-- **The check accepts exactly the segmented texts**, as long as their segments
can be counted.  Any other text is refused, the empty one for being empty and the
rest for the leftmost offence in it: a slash, or a dot or the end where a segment
starts.  Neither the additions make a difference, nor whether it looks at bytes
or at characters. -/
theorem check_decides (o : Overflow) (name : String) (h : ShortSegments name.toList) :
    (checkWith o name = .ok () ↔ Segmented name.toList)
      ∧ (∀ f, checkWith o name = .error f
          ↔ name = "" ∧ f = .empty ∨ name ≠ "" ∧ FirstOffence [] name.toList f)
      ∧ checkWith o name = checkChars name.toList := by
  have hchars := checkWith_eq_checkChars o h
  refine ⟨by rw [hchars, checkChars_eq_ok_iff], ?_, hchars⟩
  intro f
  rw [hchars, checkChars_eq_error_iff, Ne, Ne, String.toList_eq_nil_iff]

/-- A name with two offences in it, which takes no more than some bytes. -/
theorem cyrillicName_decided :
    ShortSegments "пример..Тест/".toList
      ∧ checkWith .wraps "пример..Тест/" = checkChars "пример..Тест/".toList :=
  have h : ShortSegments "пример..Тест/".toList := shortSegments_of_byteCount (by decide)
  ⟨h, (check_decides .wraps "пример..Тест/" h).2.2⟩

/-- A text of one character over and over. -/
def repeated (c : Char) (n : Nat) : String := String.ofList (List.replicate n c)

theorem byteCount_replicate (n : Nat) : byteCount (List.replicate n 'a') = n := by
  induction n with
  | zero => rfl
  | succ n ih =>
    rw [List.replicate_succ, byteCount, List.flatMap_cons, List.length_append]
    show 1 + byteCount (List.replicate n 'a') = _
    omega

theorem isSegment_replicate {n : Nat} (h : n ≠ 0) : IsSegment (List.replicate n 'a') where
  nonempty := by simpa using h
  dot_free := by simp [List.mem_replicate]
  slash_free := by simp [List.mem_replicate]

/-- One segment may be too long: a text of 2³¹ letters consists of a segment, and
is refused for a fault that is none of the offences, or for an empty segment. -/
theorem longSegment_refused :
    Segmented (repeated 'a' countLimit).toList
      ∧ check (repeated 'a' countLimit) = .error .overflow
      ∧ checkWith .wraps (repeated 'a' countLimit) = .error .emptySegment := by
  have hs : IsSegment (List.replicate countLimit 'a') := isSegment_replicate (by decide)
  have hcount := byteCount_replicate countLimit
  have hpos : 0 < countLimit := by decide
  obtain ⟨hfaults, hwraps⟩ := checkWith_of_long hs.dot_free hs.slash_free (by omega)
  refine ⟨⟨[List.replicate countLimit 'a'], by simp, ?_, ?_⟩, ?_, ?_⟩
  · intro s hmem
    rw [List.mem_singleton.1 hmem]
    exact hs
  · rw [repeated, String.toList_ofList, List.intercalate_singleton]
  · have h := hfaults []
    rwa [List.append_nil] at h
  · exact hwraps (by omega)

end ClassBridge.QualifiedName
