import Localize.Proofs.Template.Offsets

/-! # What the tag scanner yields

`TagScanner` walks a template's bytes with a cursor and the number of newlines before it.
`TagScanner.At s pre rest` is its invariant: it stands at the end of `pre`, with `rest` left to
scan, has counted the newlines of `pre`, and has not stopped. Moving the cursor over text keeps
the invariant (`advanceTo_over`); that is the one place where the count is kept.

From a scanner at `pre`, one step does what the character scan `scanFrom` does on `rest`
(`step_of_none`, `step_at_tag`, `readTag_of_plain`, `readTag_of_keyword`). The line the step
gives a tag, the count at its `{%` plus one, is the line the character scan reads off the
newlines after the tag. So each call of `next` yields the next item of the character scan
(`next_yields`), successive calls yield all of them and then nothing (`calls_yields`), and
running the scanner to its end gives them all (`run_yields`).
`tag_scanner_items` puts this together with `scan_items_at_tags`: no cut of the scanner fails,
it yields the messages and then the error that stopped it, if any, and each item comes from a
`{%` at a byte offset of the text, in order, where a message keyword follows and whose line is
one more than the number of newlines before it.
-/

namespace Localize.Template

open Localize.Text

namespace TagScanner

/-- The scanner stands at the end of `pre`, with `rest` left to scan, has counted the newlines
of `pre`, and has not stopped. -/
structure At (s : TagScanner) (pre rest : List Char) : Prop where
  chars_eq : s.chars = pre ++ rest
  cursor_eq : s.cursor = byteLength pre
  newlines_eq : s.newlines = pre.count '\n'
  running : s.failed = false

/-- Moving the cursor over `mid` counts the newlines it passes. -/
theorem advanceTo_over {s : TagScanner} {pre mid rest : List Char} (here : s.At pre (mid ++ rest)) :
    ∃ s', s.advanceTo (byteLength (pre ++ mid)) = .ok s' ∧ s'.At (pre ++ mid) rest ∧
      s'.chars = s.chars := by
  have cut : cutBytes s.chars s.cursor (byteLength (pre ++ mid)) = .ok mid := by
    rw [here.chars_eq, here.cursor_eq, byteLength_append, ← List.append_assoc]
    exact cutBytes_append pre mid rest
  refine ⟨{ s with cursor := byteLength (pre ++ mid), newlines := s.newlines + mid.count '\n' },
    by simp only [advanceTo, cut, bind, Except.bind, pure, Except.pure], ?_, rfl⟩
  exact ⟨by simp [here.chars_eq], rfl, by simp [here.newlines_eq, List.count_append],
    here.running⟩

theorem new_at (text : String) : (new text).At [] text.toList :=
  ⟨rfl, rfl, rfl, rfl⟩

/-! ## One step -/

theorem step_of_none {s : TagScanner} {pre cs : List Char} (here : s.At pre cs)
    (absent : breakOn openMark cs = none) : s.step = .ok .finished := by
  have found : findAt s.chars s.cursor openMark = .ok none := by
    rw [here.chars_eq, here.cursor_eq, findAt_append, absent]
    rfl
  simp [step, found, bind, Except.bind, pure, Except.pure]

/-- A step from the scanner at `pre` moves it to the next `{%` and reads the tag there. -/
theorem step_at_tag {s : TagScanner} {pre cs skipped after : List Char} (here : s.At pre cs)
    (split : breakOn openMark cs = some (skipped, after)) :
    ∃ atTag : TagScanner, s.step = atTag.readTag ∧ atTag.At (pre ++ skipped) (openMark ++ after) ∧
      atTag.chars = s.chars := by
  have found : findAt s.chars s.cursor openMark = .ok (some (byteLength (pre ++ skipped))) := by
    rw [here.chars_eq, here.cursor_eq, findAt_append, split]
    rfl
  obtain rfl := breakOn_eq_some split
  obtain ⟨atTag, moved, there, same⟩ :=
    @advanceTo_over s pre skipped (openMark ++ after) (by simpa using here)
  exact ⟨atTag, by simp only [step, found, moved, bind, Except.bind], there, same⟩

/-- The keyword's offset in a tag after `pre`: past the mark and its blanks. -/
theorem skipBlankAt_mark (pre after : List Char) :
    skipBlankAt (pre ++ (openMark ++ after)) (byteLength pre + byteLength openMark) =
      .ok (byteLength (pre ++ openMark ++ after.takeWhile isBlank)) := by
  rw [← byteLength_append, ← List.append_assoc]
  exact skipBlankAt_append (pre ++ openMark) after

theorem keywordAt_mark (pre after : List Char) :
    keywordAt (pre ++ (openMark ++ after)) (byteLength (pre ++ openMark ++ after.takeWhile isBlank)) =
      .ok ((keywordIn keywords (dropBlank after)).map fun found =>
        (found.1, byteLength (pre ++ openMark ++ after.takeWhile isBlank) +
          (byteLength (dropBlank after) - byteLength found.2))) := by
  have text : pre ++ (openMark ++ after) =
      pre ++ openMark ++ after.takeWhile isBlank ++ dropBlank after := by
    simp [dropBlank, List.takeWhile_append_dropWhile]
  rw [text]
  exact keywordFrom_append _ _ keywords

theorem skipBlankAt_tag {s : TagScanner} {pre after : List Char}
    (here : s.At pre (openMark ++ after)) :
    skipBlankAt s.chars (s.cursor + byteLength openMark) =
      .ok (byteLength (pre ++ openMark ++ after.takeWhile isBlank)) := by
  rw [here.chars_eq, here.cursor_eq]
  exact skipBlankAt_mark pre after

theorem keywordAt_tag {s : TagScanner} {pre after : List Char}
    (here : s.At pre (openMark ++ after)) :
    keywordAt s.chars (byteLength (pre ++ openMark ++ after.takeWhile isBlank)) =
      .ok ((keywordIn keywords (dropBlank after)).map fun found =>
        (found.1, byteLength (pre ++ openMark ++ after.takeWhile isBlank) +
          (byteLength (dropBlank after) - byteLength found.2))) := by
  rw [here.chars_eq]
  exact keywordAt_mark pre after

/-- A tag that is not a message tag is passed after its `{%`. -/
theorem readTag_of_plain {s : TagScanner} {pre after : List Char}
    (here : s.At pre (openMark ++ after)) (absent : keywordIn keywords (dropBlank after) = none) :
    ∃ past : TagScanner, s.readTag = .ok (.passed past) ∧ past.At (pre ++ openMark) after ∧
      past.chars = s.chars := by
  obtain ⟨past, moved, there, same⟩ := advanceTo_over here
  rw [byteLength_append, ← here.cursor_eq] at moved
  refine ⟨past, ?_, there, same⟩
  simp only [readTag, skipBlankAt_tag here, keywordAt_tag here, absent, Option.map_none, moved,
    bind, Except.bind, pure, Except.pure]

/-- What a step that reads a tag at the scanner `s` does, as the tag's character reading goes:
an error stops the scan at the tag; a reading moves the cursor to where its rest starts,
yielding the message if there is one. -/
def Follows (s : TagScanner) : Except ScanError (Option TagMessage × List Char) → Sought → Prop
  | .error e, sought => sought = .yielded (.error e) { s with failed := true }
  | .ok (message, rest), sought => ∃ (past : TagScanner) (pre : List Char), past.At pre rest ∧ past.chars = s.chars ∧
    sought = match message with
      | some m => .yielded (.ok m) past
      | none => .passed past

/-- At a message tag, the step reads the tag as its character reading does, at the line of its
`{%`: one more than the newlines counted. -/
theorem readTag_of_keyword {s : TagScanner} {pre after rest : List Char} {opener : Opener}
    (here : s.At pre (openMark ++ after))
    (found : keywordIn keywords (dropBlank after) = some (opener, rest)) :
    ∃ sought, s.readTag = .ok sought ∧
      s.Follows (scanTag (s.newlines + 1) rest opener) sought := by
  obtain ⟨word, split, solid⟩ := keyword_split found
  have text : s.chars = pre ++ openMark ++ after.takeWhile isBlank ++ word ++ rest := by
    rw [here.chars_eq, List.append_assoc _ word, ← split]
    simp [dropBlank, List.takeWhile_append_dropWhile]
  have keyword : keywordAt s.chars (byteLength (pre ++ openMark ++ after.takeWhile isBlank)) =
      .ok (some (opener, byteLength (pre ++ openMark ++ after.takeWhile isBlank ++ word))) := by
    rw [keywordAt_tag here, found, split]
    simp [Nat.add_assoc]
  have scanned := scanTagAt_append (s.newlines + 1)
    (pre ++ openMark ++ after.takeWhile isBlank ++ word) rest opener (solid _)
  rw [← text] at scanned
  have reads := scanTag_reads (s.newlines + 1) rest opener
  cases reading : scanTag (s.newlines + 1) rest opener with
  | error e =>
    rw [reading] at scanned
    exact ⟨_, by simp only [readTag, skipBlankAt_tag here, keyword, scanned, atOffsets, bind,
      Except.bind, pure, Except.pure], rfl⟩
  | ok read =>
    obtain ⟨message, rest'⟩ := read
    rw [reading] at scanned reads
    -- the tag's reading leaves a suffix of the text after the keyword
    obtain ⟨mid, rfl⟩ := reads.2
    have moving : s.At pre ((openMark ++ after.takeWhile isBlank ++ word ++ mid) ++ rest') := by
      refine ⟨?_, here.cursor_eq, here.newlines_eq, here.running⟩
      rw [text]
      simp
    obtain ⟨past, moved, there, same⟩ := advanceTo_over moving
    have stop : byteLength s.chars - byteLength rest' =
        byteLength (pre ++ (openMark ++ after.takeWhile isBlank ++ word ++ mid)) := by
      rw [text]
      simp only [byteLength_append]
      omega
    refine ⟨_, ?_, past, _, there, same, rfl⟩
    cases message <;>
      simp only [readTag, skipBlankAt_tag here, keyword, scanned, atOffsets, stop, moved, bind,
        Except.bind, pure, Except.pure]

/-! ## Seeking the next item -/

/-- `seek` does what the outcome of its step says: it stops at the end, yields an item, or goes
on from where the step left the scanner. -/
theorem seek_of_step {s : TagScanner} {sought : Sought} (stepped : s.step = .ok sought) :
    s.seek = match sought with
      | .finished => .ok (none, s)
      | .yielded item past => .ok (some item, past)
      | .passed past => past.seek := by
  rw [seek]
  split <;> rename_i read <;> rw [stepped] at read <;> cases read <;> rfl

/-- The line the character scan gives the tag at `skipped`, read off the newlines after it, is
one more than the newlines before it, which the scanner has counted. -/
theorem line_at_tag (pre skipped after : List Char) :
    (pre ++ (skipped ++ openMark ++ after)).count '\n' - after.count '\n' + 1 =
      (pre ++ skipped).count '\n' + 1 := by
  have unmarked : openMark.count '\n' = 0 := rfl
  simp only [List.count_append, unmarked]
  omega

/-- At a message tag whose character reading fails, `seek` yields the error and stops the
scan. -/
theorem seek_of_tag_error {s : TagScanner} {pre cs skipped after rest : List Char}
    {opener : Opener} {e : ScanError} (here : s.At pre cs)
    (split : breakOn openMark cs = some (skipped, after))
    (keyword : keywordIn keywords (dropBlank after) = some (opener, rest))
    (failed : scanTag ((pre ++ cs).count '\n' - after.count '\n' + 1) rest opener = .error e) :
    ∃ s', s.seek = .ok (some (.error e), s') ∧ s'.failed = true := by
  obtain ⟨atTag, stepped, there, -⟩ := step_at_tag here split
  obtain ⟨sought, read, follows⟩ := readTag_of_keyword there keyword
  rw [there.newlines_eq, ← line_at_tag, ← breakOn_eq_some split, failed] at follows
  cases follows
  exact ⟨_, seek_of_step (stepped.trans read), rfl⟩

/-- At a message tag whose character reading gives `message` and leaves `rest'`, `seek` yields
the message with the scanner at `rest'`, or goes on from there when the tag has none. -/
theorem seek_of_tag_read {s : TagScanner} {pre cs skipped after rest rest' : List Char}
    {opener : Opener} {message : Option TagMessage} (here : s.At pre cs)
    (split : breakOn openMark cs = some (skipped, after))
    (keyword : keywordIn keywords (dropBlank after) = some (opener, rest))
    (read : scanTag ((pre ++ cs).count '\n' - after.count '\n' + 1) rest opener =
      .ok (message, rest')) :
    ∃ (past : TagScanner) (pre' : List Char), past.At pre' rest' ∧ past.chars = s.chars ∧
      s.seek = match message with
        | some m => .ok (some (.ok m), past)
        | none => past.seek := by
  obtain ⟨atTag, stepped, there, same⟩ := step_at_tag here split
  obtain ⟨sought, tagRead, follows⟩ := readTag_of_keyword there keyword
  rw [there.newlines_eq, ← line_at_tag, ← breakOn_eq_some split, read] at follows
  obtain ⟨past, pre', beyond, same', rfl⟩ := follows
  refine ⟨past, pre', beyond, same'.trans same, ?_⟩
  cases message <;> exact seek_of_step (stepped.trans tagRead)

/-- The scanner yields `items`, one per call of `next`, and nothing after them: it stands before
a suffix of its text whose character scan gives them, or it has stopped and they are none. -/
def Yields (s : TagScanner) (items : List (Except ScanError TagMessage)) : Prop :=
  (∃ pre rest, s.At pre rest ∧ items = scanItems (scanFrom (s.chars.count '\n') rest)) ∨
    (s.failed = true ∧ items = [])

/-- From a scanner that stands before `cs`, `seek` yields the first item of the character scan of
`cs` and leaves the scanner yielding the others. -/
theorem seek_yields (T cs : List Char) : ∀ (s : TagScanner) (pre : List Char), s.At pre cs →
    s.chars = T → ∃ s', s.seek = .ok ((scanItems (scanFrom (T.count '\n') cs)).head?, s') ∧
      s'.Yields (scanItems (scanFrom (T.count '\n') cs)).tail := by
  fun_induction scanFrom (T.count '\n') cs with
  | case1 cs absent =>
    intro s pre here same
    refine ⟨s, seek_of_step (step_of_none here absent), .inl ⟨pre, cs, here, ?_⟩⟩
    rw [same, scanFrom_of_none absent]
    rfl
  | case2 cs skipped after split absent ih =>
    -- a `{%` without a message keyword is passed
    intro s pre here same
    obtain ⟨atTag, stepped, there, same'⟩ := step_at_tag here split
    obtain ⟨past, read, beyond, same''⟩ := readTag_of_plain there absent
    rw [seek_of_step (stepped.trans read)]
    exact ih past _ beyond (same''.trans (same'.trans same))
  | case3 cs skipped after split line rest keyword e failed =>
    intro s pre here same
    obtain ⟨s', sought, stopped⟩ :=
      seek_of_tag_error here split keyword (by rw [← here.chars_eq, same]; exact failed)
    exact ⟨s', sought, .inr ⟨stopped, rfl⟩⟩
  | case4 cs skipped after split line rest keyword message rest' read messages stop scanned ih =>
    intro s pre here same
    obtain ⟨past, pre', beyond, same', sought⟩ :=
      seek_of_tag_read here split keyword (by rw [← here.chars_eq, same]; exact read)
    have later := ih past pre' beyond (same'.trans same)
    rw [scanned] at later
    cases message with
    | none =>
      rw [sought]
      simpa [scanItems] using later
    | some m =>
      refine ⟨past, sought, .inl ⟨pre', rest', beyond, ?_⟩⟩
      rw [same', same, scanned]
      rfl
  | case5 cs skipped after split line closing rest keyword e failed =>
    intro s pre here same
    have tagFailed : scanTag line rest (.block closing) = .error e := by
      simp only [scanTag, failed]
      rfl
    obtain ⟨s', sought, stopped⟩ :=
      seek_of_tag_error here split keyword (by rw [← here.chars_eq, same]; exact tagFailed)
    exact ⟨s', sought, .inr ⟨stopped, rfl⟩⟩
  | case6 cs skipped after split line closing rest keyword m rest' read messages stop scanned ih =>
    intro s pre here same
    have tagRead : scanTag line rest (.block closing) = .ok (some m, rest') := by
      simp only [scanTag, read]
      rfl
    obtain ⟨past, pre', beyond, same', sought⟩ :=
      seek_of_tag_read here split keyword (by rw [← here.chars_eq, same]; exact tagRead)
    refine ⟨past, sought, .inl ⟨pre', rest', beyond, ?_⟩⟩
    rw [same', same, scanned]
    rfl

/-- Each call of `next` yields the next item, or nothing once they are all yielded. -/
theorem next_yields {s : TagScanner} {items : List (Except ScanError TagMessage)}
    (yields : s.Yields items) : ∃ s', s.next = .ok (items.head?, s') ∧ s'.Yields items.tail := by
  rcases yields with ⟨pre, rest, here, rfl⟩ | ⟨stopped, rfl⟩
  · obtain ⟨s', sought, later⟩ := seek_yields s.chars rest s pre here rfl
    exact ⟨s', by rw [next, if_neg (by simp [here.running]), sought], later⟩
  · exact ⟨s, by rw [next, if_pos stopped]; rfl, .inr ⟨stopped, rfl⟩⟩

/-- The answers of `n` successive calls of `next`, or the cut that stops the program. -/
def calls : Nat → TagScanner → Except CutFault (List (Option (Except ScanError TagMessage)))
  | 0, _ => .ok []
  | n + 1, s => do
    let (item, s') ← s.next
    return item :: (← calls n s')

/-- Successive calls of `next` yield the items in order and then nothing. -/
theorem calls_yields {s : TagScanner} {items : List (Except ScanError TagMessage)}
    (yields : s.Yields items) (n : Nat) :
    s.calls n = .ok ((List.range n).map (items[·]?)) := by
  induction n generalizing s items with
  | zero => rfl
  | succ n ih =>
    obtain ⟨s', called, later⟩ := next_yields yields
    simp only [calls, called, ih later, bind, Except.bind, pure, Except.pure,
      List.range_succ_eq_map, List.map_cons, List.map_map]
    cases items <;> simp [Function.comp_def]

/-- Running the scanner to its end gives the items it yields, in order. -/
theorem run_yields {s : TagScanner} {items : List (Except ScanError TagMessage)}
    (yields : s.Yields items) : s.run = .ok items := by
  induction items generalizing s with
  | nil =>
    obtain ⟨s', called, -⟩ := next_yields yields
    rw [run]
    split <;> rename_i answer <;> rw [called] at answer <;> cases answer
  | cons item items ih =>
    -- the first call yields `item`, and the run goes on from the scanner after it
    obtain ⟨s', called, later⟩ := next_yields yields
    rw [run]
    split <;> rename_i answer <;> rw [called] at answer <;> cases answer
    rw [ih later]
    rfl

end TagScanner

/-! ## Where the items stand in bytes -/

/-- Whether the bytes of `T` from offset `o` are `{%`. -/
def marksAt (T : List Char) (o : Nat) : Bool :=
  match cutBytes T o (o + byteLength openMark) with
  | .ok cs => cs == openMark
  | .error _ => false

/-- The byte offsets of `{%` in `T`, in order. -/
def markOffsets (T : List Char) : List Nat :=
  (List.range (byteLength T)).filter (marksAt T)

/-- A message tag opens at byte `o` of `T` as the scanner reads it there: the bytes from `o` are
`{%`, and past the blanks after them the keyword reader finds a message keyword. -/
def TagOpensAtByte (T : List Char) (o : Nat) : Prop :=
  cutBytes T o (o + byteLength openMark) = .ok openMark ∧
    ∃ keyword found, skipBlankAt T (o + byteLength openMark) = .ok keyword ∧
      keywordAt T keyword = .ok (some found)

/-- The item comes from the message tag at byte `o` of `T` and reports one more than the number
of newlines in the bytes before `o`. -/
def ItemAtByte (T : List Char) (o : Nat) (item : Except ScanError TagMessage) : Prop :=
  TagOpensAtByte T o ∧
    ∃ before, cutBytes T 0 o = .ok before ∧ itemLine item = before.count '\n' + 1

theorem mem_markOffsets {T : List Char} {o : Nat} (opens : TagOpensAtByte T o) :
    o ∈ markOffsets T := by
  obtain ⟨pre, post, text, start, -⟩ := cutBytes_eq_ok opens.1
  refine List.mem_filter.mpr ⟨List.mem_range.mpr ?_, by simp [marksAt, opens.1]⟩
  rw [text, start]
  simp only [byteLength_append, byteLength_openMark]
  omega

theorem tagOpensAtByte_mark (pre after : List Char)
    (keyword : (keywordIn keywords (dropBlank after)).isSome) :
    TagOpensAtByte (pre ++ (openMark ++ after)) (byteLength pre) := by
  obtain ⟨found, read⟩ := Option.isSome_iff_exists.mp keyword
  have keywordRead := TagScanner.keywordAt_mark pre after
  rw [read] at keywordRead
  refine ⟨?_, _, _, TagScanner.skipBlankAt_mark pre after, keywordRead⟩
  rw [← List.append_assoc]
  exact cutBytes_append pre openMark after

/-- An item at a character position stands at the byte offset of that position. -/
theorem ItemAt.atByte {T : List Char} {o : Nat} {item : Except ScanError TagMessage}
    (at_o : ItemAt T o item) : ItemAtByte T (byteLength (T.take o)) item := by
  obtain ⟨⟨after, mark, keyword⟩, line⟩ := at_o
  have split : T.take o ++ (openMark ++ after) = T := by
    rw [← afterPrefix?_eq_some mark, List.take_append_drop]
  have opens := tagOpensAtByte_mark (T.take o) after keyword
  rw [split] at opens
  have before : cutBytes T 0 (byteLength (T.take o)) = .ok (T.take o) := by
    simpa using cutBytes_append [] (T.take o) (T.drop o)
  exact ⟨opens, T.take o, before, line⟩

/-- Every character has at least one byte, so later positions have larger byte offsets. -/
theorem byteLength_take_lt {T : List Char} {o o' : Nat} (before : o < o')
    (within : o' ≤ T.length) : byteLength (T.take o) < byteLength (T.take o') := by
  induction T generalizing o o' with
  | nil => simp at within; omega
  | cons c cs ih =>
    obtain ⟨k', rfl⟩ : ∃ k', o' = k' + 1 := ⟨o' - 1, by omega⟩
    cases o with
    | zero =>
      have := Char.utf8Size_pos c
      simp only [List.take_zero, List.take_succ_cons, byteLength_nil, byteLength_cons]
      omega
    | succ k =>
      simpa using @ih k k' (by omega) (by simpa using within)

/-- The tag scanner over a text never makes a cut outside the text or inside a character, and
yields a finite list of items, one per call of `next`, and then nothing (running it to its end
gives them all): its messages, then the
error that stopped it, if any, with nothing after it. Each item comes from a `{%` at a byte
offset of the text, the offsets increasing, after which, past blanks, the keyword reader finds
a message keyword; and each item reports one more than the number of newlines before its
offset, as the scanner counts them. So it yields at most one item per `{%` of the text, and the
lines it reports never decrease. -/
theorem tag_scanner_items (text : String) :
    ∃ items : List (Except ScanError TagMessage),
      (∀ n, (TagScanner.new text).calls n = .ok ((List.range n).map (items[·]?))) ∧
      (TagScanner.new text).run = .ok items ∧
      (∀ i e, items[i]? = some (.error e) → items.length = i + 1) ∧
      ∃ offsets : List Nat, offsets.Pairwise (· < ·) ∧
        offsets.Sublist (markOffsets text.toList) ∧
        List.Forall₂ (ItemAtByte text.toList) offsets items ∧
        items.length ≤ (markOffsets text.toList).length ∧
        (items.map itemLine).Pairwise (· ≤ ·) := by
  obtain ⟨positions, part, items, -, lines⟩ := scan_items_at_tags text
  have yields : (TagScanner.new text).Yields (scanItems (scan text)) :=
    .inl ⟨[], text.toList, TagScanner.new_at text, rfl⟩
  have within : ∀ o ∈ positions, o < text.toList.length := fun o member =>
    List.mem_range.mp (List.mem_filter.mp (part.subset member)).1
  -- the character positions of the items, read as byte offsets
  have increasing : (positions.map fun o => byteLength (text.toList.take o)).Pairwise (· < ·) := by
    rw [List.pairwise_map]
    exact ((List.pairwise_lt_range.filter _).sublist part).imp_of_mem
      fun _ member' before => byteLength_take_lt before (within _ member').le
  have atBytes : List.Forall₂ (ItemAtByte text.toList)
      (positions.map fun o => byteLength (text.toList.take o)) (scanItems (scan text)) :=
    List.forall₂_map_left_iff.mpr (items.imp fun _ _ => ItemAt.atByte)
  have marks := sublist_of_increasing increasing (List.pairwise_lt_range.filter _)
    fun o member => mem_markOffsets (((List.forall₂_and_left _ _).mp atBytes).1 o member)
  refine ⟨scanItems (scan text), TagScanner.calls_yields yields, TagScanner.run_yields yields,
    fun _ _ => scanItems_error_last _, _,
    increasing, marks, atBytes, atBytes.length_eq ▸ marks.length_le, lines⟩

end Localize.Template
