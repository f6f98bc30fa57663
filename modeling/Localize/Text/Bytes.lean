import Localize.Text.Escaped

/-! # Byte offsets in text

Text is cut at byte offsets of its UTF-8 encoding (`sliceBytes`). A cut at an offset past the end
of the text, at a start after its stop, or at an offset inside the encoding of a character is a
fault of the program: it stops with a message that names the offset (and, for a cut inside a
character, the character and its bytes) and shows the text, cut to its first 256 bytes.

Offsets are read against the characters: `cutAt` says where an offset falls, between two
characters or inside one. `cutAt_append` finds the offset just after a prefix between the
prefix and the rest, and `cutAt_cons_inside` finds an offset inside the first character there.
-/

namespace Localize.Text

/-- The number of bytes of characters in UTF-8. -/
def byteLength : List Char → Nat
  | [] => 0
  | c :: cs => c.utf8Size + byteLength cs

@[simp] theorem byteLength_nil : byteLength [] = 0 := rfl

@[simp] theorem byteLength_cons (c : Char) (cs : List Char) :
    byteLength (c :: cs) = c.utf8Size + byteLength cs := rfl

@[simp] theorem byteLength_append (cs ds : List Char) :
    byteLength (cs ++ ds) = byteLength cs + byteLength ds := by
  induction cs with
  | nil => simp
  | cons c cs ih => simp [ih, Nat.add_assoc]

@[simp] theorem utf8ByteSize_ofList (cs : List Char) :
    (String.ofList cs).utf8ByteSize = byteLength cs := by
  induction cs with
  | nil => simp
  | cons c cs ih => simp [String.utf8ByteSize_append, String.utf8ByteSize_singleton, ih]

theorem utf8ByteSize_eq_byteLength (s : String) : s.utf8ByteSize = byteLength s.toList := by
  have size := utf8ByteSize_ofList s.toList
  rwa [String.ofList_toList] at size

/-- Where a byte offset falls in text. -/
inductive Cut where
  /-- Between two characters or at an end: the characters before the offset and after it. -/
  | between (before after : List Char)
  /-- Inside the encoding of `c`, whose bytes start at offset `start`. -/
  | inside (c : Char) (start : Nat)
  /-- Past the end. -/
  | beyond
deriving DecidableEq, Repr

/-- The cut as it falls in text that has `pre` in front. -/
def Cut.after (pre : List Char) : Cut → Cut
  | .between before after => .between (pre ++ before) after
  | .inside c start => .inside c (byteLength pre + start)
  | .beyond => .beyond

@[simp] theorem Cut.after_nil (cut : Cut) : cut.after [] = cut := by
  cases cut <;> simp [Cut.after]

/-- The characters before a cut between two characters; none for the other cuts. -/
def Cut.before : Cut → List Char
  | .between before _ => before
  | _ => []

/-- Where byte offset `i` falls in `cs`. -/
def cutAt : List Char → Nat → Cut
  | cs, 0 => .between [] cs
  | [], _ + 1 => .beyond
  | c :: cs, i + 1 =>
    if i + 1 < c.utf8Size then .inside c 0 else (cutAt cs (i + 1 - c.utf8Size)).after [c]

@[simp] theorem cutAt_zero (cs : List Char) : cutAt cs 0 = .between [] cs := by
  cases cs <;> rfl

theorem cutAt_append (pre rest : List Char) (i : Nat) :
    cutAt (pre ++ rest) (byteLength pre + i) = (cutAt rest i).after pre := by
  induction pre with
  | nil => simp
  | cons c pre ih =>
    -- the offset lies past `c`, which takes at least one byte
    obtain ⟨k, size⟩ : ∃ k, c.utf8Size = k + 1 := ⟨c.utf8Size - 1, by have := c.utf8Size_pos; omega⟩
    have index : byteLength (c :: pre) + i = (k + byteLength pre + i) + 1 := by
      simp [size]; omega
    have past : ¬ k + byteLength pre + i + 1 < c.utf8Size := by omega
    have rest_index : k + byteLength pre + i + 1 - c.utf8Size = byteLength pre + i := by omega
    rw [index, List.cons_append, cutAt, if_neg past, rest_index, ih]
    cases cutAt rest i <;> simp [Cut.after, Nat.add_assoc]

/-- The offset just after a prefix falls between the prefix and the rest. -/
theorem cutAt_byteLength (pre rest : List Char) :
    cutAt (pre ++ rest) (byteLength pre) = .between pre rest := by
  simpa [Cut.after] using cutAt_append pre rest 0

/-- An offset inside the bytes of the first character falls inside it. -/
theorem cutAt_cons_inside {c : Char} (cs : List Char) {i : Nat} (positive : 0 < i)
    (within : i < c.utf8Size) : cutAt (c :: cs) i = .inside c 0 := by
  obtain ⟨k, rfl⟩ : ∃ k, i = k + 1 := ⟨i - 1, by omega⟩
  rw [cutAt, if_pos within]

/-- An offset within the text does not fall past its end. -/
theorem cutAt_ne_beyond {cs : List Char} {i : Nat} (within : i ≤ byteLength cs) :
    cutAt cs i ≠ .beyond := by
  induction cs generalizing i with
  | nil =>
    obtain rfl : i = 0 := by simpa using within
    simp
  | cons c cs ih =>
    cases i with
    | zero => simp
    | succ i =>
      rw [cutAt]
      split
      · simp
      · have rest := ih (i := i + 1 - c.utf8Size) (by simp at within; omega)
        cases inner : cutAt cs (i + 1 - c.utf8Size) with
        | beyond => exact absurd inner rest
        | _ => simp [Cut.after]

/-- An offset between two characters splits the text there. -/
theorem cutAt_eq_between {cs before after : List Char} {i : Nat}
    (cut : cutAt cs i = .between before after) : cs = before ++ after ∧ byteLength before = i := by
  induction cs generalizing i before with
  | nil =>
    cases i with
    | zero => simp_all
    | succ i => simp [cutAt] at cut
  | cons c cs ih =>
    cases i with
    | zero => simp_all
    | succ i =>
      rw [cutAt] at cut
      split at cut
      · cases cut
      · rename_i past
        cases inner : cutAt cs (i + 1 - c.utf8Size) with
        | between before' after' =>
          rw [inner] at cut
          simp only [Cut.after, List.singleton_append, Cut.between.injEq] at cut
          obtain ⟨rfl, rfl⟩ := cut
          obtain ⟨split, size⟩ := ih inner
          exact ⟨by simp [split], by simp; omega⟩
        | inside d start => rw [inner] at cut; cases cut
        | beyond => rw [inner] at cut; cases cut

theorem byteLength_eq_zero {cs : List Char} : byteLength cs = 0 ↔ cs = [] := by
  cases cs with
  | nil => simp
  | cons c cs => simp; have := c.utf8Size_pos; omega

/-- Of two splits of one text, the one with the shorter front has a front that starts the
other. -/
theorem prefix_of_byteLength_le {before after before' after' : List Char}
    (same : before ++ after = before' ++ after') (shorter : byteLength before ≤ byteLength before') :
    ∃ mid, before' = before ++ mid ∧ after = mid ++ after' := by
  rcases List.append_eq_append_iff.mp same with ⟨mid, rfl, rfl⟩ | ⟨extra, rfl, rfl⟩
  · exact ⟨mid, rfl, rfl⟩
  · have empty : byteLength extra = 0 := by simp at shorter; omega
    rw [byteLength_eq_zero.mp empty]
    exact ⟨[], by simp, by simp⟩

/-- Why a cut of text fails. -/
inductive CutFault where
  /-- An offset past the end of the text. -/
  | outOfBounds (index : Nat)
  /-- A start after the stop. -/
  | reversed (start stop : Nat)
  /-- An offset inside character `c`, whose bytes start at `start`. -/
  | notBoundary (index : Nat) (c : Char) (start : Nat)
deriving DecidableEq, Repr

/-- The longest run of leading characters that fits in `n` bytes. -/
def takeBytes : Nat → List Char → List Char
  | _, [] => []
  | n, c :: cs => if c.utf8Size ≤ n then c :: takeBytes (n - c.utf8Size) cs else []

/-- How a fault message shows the text it cuts: between backquotes, its first 256 bytes, and a
mark when more follows. -/
def shownText (cs : List Char) : String :=
  let shown := takeBytes 256 cs
  "`" ++ String.ofList shown ++ "`" ++ if shown.length < cs.length then "[...]" else ""

/-- How a fault message shows a character: between single quotes, escaped as between them. -/
def shownChar (c : Char) : String := "'" ++ escapedBetween '\x27' c ++ "'"

/-- The message of a failed cut of `cs`. -/
def CutFault.message (cs : List Char) : CutFault → String
  | .outOfBounds index => "byte index " ++ toString index ++ " is out of bounds of " ++ shownText cs
  | .reversed start stop =>
    "begin <= end (" ++ toString start ++ " <= " ++ toString stop ++ ") when slicing " ++
      shownText cs
  | .notBoundary index c start =>
    "byte index " ++ toString index ++ " is not a char boundary; it is inside " ++ shownChar c ++
      " (bytes " ++ toString start ++ ".." ++ toString (start + c.utf8Size) ++ ") of " ++
      shownText cs

/-- The characters of `cs` from byte `start` to byte `stop`. The checks come in this order: each
offset within the text (`start` first), the start not after the stop, each offset between two
characters (`start` first). -/
def cutBytes (cs : List Char) (start stop : Nat) : Except CutFault (List Char) :=
  if byteLength cs < start then .error (.outOfBounds start)
  else if byteLength cs < stop then .error (.outOfBounds stop)
  else if stop < start then .error (.reversed start stop)
  else match cutAt cs start, cutAt cs stop with
    | .inside c first, _ => .error (.notBoundary start c first)
    | _, .inside c first => .error (.notBoundary stop c first)
    | first, last => .ok (last.before.drop first.before.length)

/-- The text from byte `start` to byte `stop`, or the message of the fault that stops the cut. -/
def sliceBytes (text : String) (start stop : Nat) : Except String String :=
  match cutBytes text.toList start stop with
  | .ok cs => .ok (String.ofList cs)
  | .error fault => .error (fault.message text.toList)

end Localize.Text

namespace Localize.Text

/-- A cut from the end of a front part to the end of a middle part gives the middle part. -/
theorem cutBytes_append (pre mid post : List Char) :
    cutBytes (pre ++ mid ++ post) (byteLength pre) (byteLength pre + byteLength mid) = .ok mid := by
  have start : cutAt (pre ++ mid ++ post) (byteLength pre) = .between pre (mid ++ post) := by
    rw [List.append_assoc]
    exact cutAt_byteLength pre (mid ++ post)
  have stop : cutAt (pre ++ mid ++ post) (byteLength pre + byteLength mid) =
      .between (pre ++ mid) post := by
    rw [← byteLength_append]
    exact cutAt_byteLength (pre ++ mid) post
  rw [cutBytes, if_neg (by simp), if_neg (by simp), if_neg (by omega), start, stop]
  simp [Cut.before]

/-- A cut that succeeds takes the middle of a split of the text at its two offsets. -/
theorem cutBytes_eq_ok {cs mid : List Char} {start stop : Nat}
    (cut : cutBytes cs start stop = .ok mid) :
    ∃ pre post, cs = pre ++ mid ++ post ∧ start = byteLength pre ∧
      stop = start + byteLength mid := by
  unfold cutBytes at cut
  split at cut
  · cases cut
  split at cut
  · cases cut
  split at cut
  · cases cut
  rename_i start_within stop_within ordered
  have first_ne := @cutAt_ne_beyond cs start (by omega)
  have last_ne := @cutAt_ne_beyond cs stop (by omega)
  cases first_eq : cutAt cs start with
  | inside c p => rw [first_eq] at cut; cases cut
  | beyond => exact absurd first_eq first_ne
  | between before after =>
    cases last_eq : cutAt cs stop with
    | inside c p => rw [first_eq, last_eq] at cut; cases cut
    | beyond => exact absurd last_eq last_ne
    | between before' after' =>
      rw [first_eq, last_eq] at cut
      obtain ⟨split, size⟩ := cutAt_eq_between first_eq
      obtain ⟨split', size'⟩ := cutAt_eq_between last_eq
      obtain ⟨middle, rfl, rfl⟩ :=
        prefix_of_byteLength_le (split.symm.trans split') (by omega)
      simp only [Cut.before, List.drop_left, Except.ok.injEq] at cut
      subst cut
      exact ⟨before, after', by simp [split'], size.symm, by simp at size'; omega⟩

end Localize.Text
