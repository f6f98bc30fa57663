import Localize.Template.Scanner
import Localize.Proofs.Template.Lines

/-! # Reading a template at byte offsets

The scanner reads a template at byte offsets (`Localize.Template.Scanner`); the readers of
`Localize.Template.Tag` read its characters. At the offset where a suffix of the text starts, the
byte length of the prefix before it, each offset reader reads what the character reader reads
from the suffix, and every cut it makes falls between two characters of the text, so none
fails.

The readers agree one by one: finding a marker (`findAt_append`), skipping blanks
(`skipBlankAt_append`), a word and the keyword table (`wordStandsAt_append`,
`keywordFrom_append`), a quoted string (`quotedBetween_append`), a context clause
(`contextClauseAt_append`), an inline tag (`scanTransAt_append`) and the body of a block tag
(`blockBodyAt_append`, by induction over the body's tags). A tag read at offsets stops where
the character reading leaves its rest (`atOffsets`).
-/

namespace Localize.Template

open Localize.Text

/-! ## Cuts at the ends of prefixes -/

theorem cutBytes_suffix (pre rest : List Char) :
    cutBytes (pre ++ rest) (byteLength pre) (byteLength (pre ++ rest)) = .ok rest := by
  simpa using cutBytes_append pre rest []

theorem findBetween_append (pre region post needle : List Char) :
    findBetween (pre ++ region ++ post) (byteLength pre) (byteLength (pre ++ region)) needle =
      .ok ((breakOn needle region).map fun found => byteLength (pre ++ found.1)) := by
  rw [byteLength_append, findBetween, cutBytes_append]
  simp [bind, Except.bind, pure, Except.pure]

theorem findAt_append (pre rest needle : List Char) :
    findAt (pre ++ rest) (byteLength pre) needle =
      .ok ((breakOn needle rest).map fun found => byteLength (pre ++ found.1)) := by
  simpa [findAt] using findBetween_append pre rest [] needle

theorem skipBlankAt_append (pre rest : List Char) :
    skipBlankAt (pre ++ rest) (byteLength pre) =
      .ok (byteLength (pre ++ rest.takeWhile isBlank)) := by
  induction rest generalizing pre with
  | nil =>
    rw [skipBlankAt]
    split
    · rename_i cut; rw [cutBytes_suffix] at cut; cases cut
    · simp
    · rename_i cut; rw [cutBytes_suffix] at cut; cases cut
  | cons c rest ih =>
    rw [skipBlankAt]
    split
    · rename_i cut; rw [cutBytes_suffix] at cut; cases cut
    · rename_i cut; rw [cutBytes_suffix] at cut; cases cut
    · rename_i d _ cut
      rw [cutBytes_suffix] at cut
      cases cut
      cases blank : isBlank c with
      | false => simp [blank]
      | true =>
        -- a blank is passed: the rest is read after the prefix and the blank
        have next := ih (pre ++ [c])
        simp only [List.append_assoc, List.singleton_append, byteLength_append, byteLength_cons,
          byteLength_nil, Nat.add_zero] at next
        simp [blank, next]

theorem wordStandsAt_append (pre rest word : List Char) :
    wordStandsAt (pre ++ rest) (byteLength pre) word = .ok (wordAt word rest).isSome := by
  simp only [wordStandsAt, cutBytes_suffix, bind, Except.bind, wordAt, startsWith]
  by_cases found : (afterPrefix? word rest).isSome
  · obtain ⟨tail, after⟩ := Option.isSome_iff_exists.mp found
    obtain rfl := afterPrefix?_eq_some after
    simp only [afterPrefix?_append, Option.isSome_some, ↓reduceIte, cutBytes_suffix]
    by_cases ends : ((afterPrefix? closeMark tail).isSome || startsBlank tail) = true <;>
      simp [ends, pure, Except.pure]
  · simp only [Bool.not_eq_true, Option.isSome_eq_false_iff, Option.isNone_iff_eq_none] at found
    simp [found, pure, Except.pure]

theorem keywordFrom_append (pre rest : List Char) (table : List (List Char × Opener)) :
    keywordFrom (pre ++ rest) (byteLength pre) table =
      .ok ((keywordIn table rest).map fun found =>
        (found.1, byteLength pre + (byteLength rest - byteLength found.2))) := by
  induction table with
  | nil => rfl
  | cons entry table ih =>
    obtain ⟨word, opener⟩ := entry
    simp only [keywordFrom, keywordIn, wordStandsAt_append, bind, Except.bind]
    cases standing : wordAt word rest with
    | none => simp [ih]
    | some tail =>
      obtain ⟨split, -⟩ : rest = word ++ tail ∧ _ := by
        unfold wordAt at standing
        split at standing
        · rename_i whole
          split at standing
          · cases standing; exact ⟨afterPrefix?_eq_some whole, trivial⟩
          · cases standing
        · cases standing
      have cut : cutBytes (pre ++ rest) (byteLength pre + byteLength word)
          (byteLength pre + byteLength rest) = .ok tail := by
        rw [split, ← List.append_assoc, ← byteLength_append, ← byteLength_append,
          ← List.append_assoc]
        exact cutBytes_suffix (pre ++ word) tail
      have offset : byteLength pre + (byteLength rest - byteLength tail) =
          byteLength pre + byteLength word := by
        rw [split, byteLength_append]; omega
      cases opener with
      | inline =>
        simp only [ih, pure, Except.pure, byteLength_append]
        by_cases closes : startsWith closeMark tail = true <;> simp [closes, cut, offset]
      | block closing => simp [offset, pure, Except.pure]

/-- The offset reading of a quoted string whose opening quote is at byte `start`, from the
character reading of the text there. -/
def Quoted.spanAt (start : Nat) : Quoted → QuoteSpan
  | .missing => .missing
  | .unterminated => .unterminated
  | .found value _ => .found value (start + byteLength value + 2)

theorem quotedBetween_append (pre region post : List Char) :
    quotedBetween (pre ++ region ++ post) (byteLength pre) (byteLength (pre ++ region)) =
      .ok ((quotedAt region).spanAt (byteLength pre)) := by
  rw [byteLength_append]
  simp only [quotedBetween, cutBytes_append, bind, Except.bind]
  cases region with
  | nil => rfl
  | cons q cs =>
    by_cases quote : (q = '"' || q = '\x27') = true
    · have narrow : q.utf8Size = 1 := by
        simp only [Bool.or_eq_true, decide_eq_true_eq] at quote
        rcases quote with rfl | rfl <;> rfl
      -- the text after the opening quote, up to the limit
      have inner : cutBytes (pre ++ q :: cs ++ post) (byteLength pre + 1)
          (byteLength pre + byteLength (q :: cs)) = .ok cs := by
        have := cutBytes_append (pre ++ [q]) cs post
        simpa [narrow, Nat.add_assoc] using this
      simp only [quote, ↓reduceIte, inner, quotedAt]
      cases closing : breakOn [q] cs with
      | none => rfl
      | some parts =>
        obtain ⟨value, rest⟩ := parts
        have content : cutBytes (pre ++ q :: cs ++ post) (byteLength pre + 1)
            (byteLength pre + 1 + byteLength value) = .ok value := by
          have := cutBytes_append (pre ++ [q]) value ([q] ++ rest ++ post)
          rw [breakOn_eq_some closing]
          simpa [narrow, Nat.add_assoc] using this
        simp only [content, Quoted.spanAt, pure, Except.pure]
        congr 2
        omega
    · simp only [quote, quotedAt, Bool.false_eq_true, ↓reduceIte]
      rfl

/-! ## Context clauses -/

theorem noMatchIn_of_breakOn {pat cs before after : List Char}
    (split : breakOn pat cs = some (before, after)) : NoMatchIn pat before (pat ++ after) := by
  induction cs generalizing before with
  | nil =>
    simp only [breakOn, Option.map_eq_some_iff, Prod.mk.injEq] at split
    obtain ⟨_, _, rfl, -⟩ := split
    intro i below
    cases below
  | cons c cs ih =>
    simp only [breakOn] at split
    split at split
    · obtain ⟨rfl, -⟩ := Prod.mk.inj (Option.some.inj split)
      intro i below
      cases below
    · rename_i absent
      simp only [Option.map_eq_some_iff, Prod.mk.injEq, Prod.exists] at split
      obtain ⟨b, a, later, rfl, rfl⟩ := split
      have whole := breakOn_eq_some later
      intro i below
      cases i with
      | zero => simpa [whole] using absent
      | succ i => simpa using ih later i (by simpa using below)

theorem noMatchIn_of_breakOn_none {pat cs : List Char} (absent : breakOn pat cs = none) :
    NoMatchIn pat cs [] := by
  induction cs with
  | nil => intro i below; cases below
  | cons c cs ih =>
    simp only [breakOn] at absent
    split at absent
    · cases absent
    · rename_i here
      intro i below
      cases i with
      | zero => simpa using here
      | succ i => simpa using ih (by simpa using absent) i (by simpa using below)

theorem NoMatchIn.suffix {pat front pre rest : List Char} (free : NoMatchIn pat (front ++ pre) rest) :
    NoMatchIn pat pre rest := by
  induction front with
  | nil => exact free
  | cons c front ih => exact ih free.tail

theorem lastBlank_false (pre : List Char) : lastBlank false pre = pre.getLast?.any isBlank := by
  unfold lastBlank
  cases pre.getLast? <;> rfl

theorem lastBlank_append (b : Bool) (pre more : List Char) :
    lastBlank (lastBlank b pre) more = lastBlank b (pre ++ more) := by
  cases more with
  | nil => simp [lastBlank]
  | cons c more =>
    obtain ⟨x, last⟩ : ∃ x, (c :: more).getLast? = some x :=
      ⟨_, List.getLast?_eq_some_getLast (by simp)⟩
    simp [lastBlank, List.getLast?_append, last]

theorem wordAt_append_isSome (word rest : List Char) :
    (wordAt word (word ++ rest)).isSome = (startsWith closeMark rest || startsBlank rest) := by
  rw [wordAt, afterPrefix?_append]
  dsimp only
  split <;> simp_all

/-- Where no close mark starts inside `rest`, a word ends before `rest` as it ends before the
close mark that follows it: at its end or at a blank. -/
theorem ends_before_close {rest after : List Char}
    (unclosed : NoMatchIn closeMark rest (closeMark ++ after)) :
    (startsWith closeMark (rest ++ closeMark ++ after) || startsBlank (rest ++ closeMark ++ after)) =
      (rest.isEmpty || startsBlank rest) := by
  cases rest with
  | nil => simp [startsWith]
  | cons r rest =>
    have open_here : afterPrefix? closeMark (r :: (rest ++ (closeMark ++ after))) = none := by
      simpa using unclosed 0 (by simp)
    simp [startsWith, open_here, startsBlank]

/-- The character reading of a clause at a `context` keyword. -/
theorem contextClause_contextWord (line : Nat) (b : Bool) (rest : List Char) :
    contextClause line b (contextWord ++ rest) =
      if b && (rest.isEmpty || startsBlank rest) then
        match quotedAt (dropBlank rest) with
        | .found value _ => .ok (some (String.ofList value))
        | .unterminated => .error (.unterminatedContext line)
        | .missing => .ok none
      else contextClause line false rest := by
  rw [show contextWord ++ rest = 'c' :: ("ontext".toList ++ rest) from rfl, contextClause]
  split
  next found value =>
    rw [show 'c' :: ("ontext".toList ++ rest) = contextWord ++ rest from rfl,
      afterPrefix?_append] at value
    cases value
    rfl
  next absent =>
    rw [show 'c' :: ("ontext".toList ++ rest) = contextWord ++ rest from rfl,
      afterPrefix?_append] at absent
    cases absent

theorem getLast?_contextWord (pre : List Char) : (pre ++ contextWord).getLast? = some 't' := by
  simp [contextWord, List.getLast?_append]

/-- The offset reading of a `context` keyword that follows `pre`, in a clause that ends where
the close mark follows `rest`. -/
theorem contextAt_append (line : Nat) (pre rest after : List Char)
    (unclosed : NoMatchIn closeMark rest (closeMark ++ after)) :
    contextAt (pre ++ contextWord ++ rest ++ (closeMark ++ after))
        (byteLength (pre ++ contextWord ++ rest)) line (byteLength pre) =
      if lastBlank false pre && (rest.isEmpty || startsBlank rest) then
        match quotedAt (dropBlank rest) with
        | .found value _ => .ok (some (some (String.ofList value)))
        | .unterminated => .error (.failure (.unterminatedContext line))
        | .missing => .ok (some none)
      else .ok none := by
  have head : cutBytes (pre ++ contextWord ++ rest ++ (closeMark ++ after)) 0 (byteLength pre) =
      .ok pre := by
    simpa [List.append_assoc] using cutBytes_append [] pre (contextWord ++ rest ++ (closeMark ++ after))
  have stands : wordStandsAt (pre ++ contextWord ++ rest ++ (closeMark ++ after)) (byteLength pre)
      contextWord = .ok (rest.isEmpty || startsBlank rest) := by
    rw [show pre ++ contextWord ++ rest ++ (closeMark ++ after) =
      pre ++ (contextWord ++ (rest ++ closeMark ++ after)) by simp, wordStandsAt_append,
      ← ends_before_close unclosed, wordAt_append_isSome]
  -- past the keyword, blanks run up to the quote or the close mark
  have blanks : (rest ++ (closeMark ++ after)).takeWhile isBlank = rest.takeWhile isBlank :=
    (takeWhile_append_of_stop (by simp [closeMark]; decide) rest).1
  have skipped : skipBlankAt (pre ++ contextWord ++ rest ++ (closeMark ++ after))
      (byteLength pre + byteLength contextWord) =
      .ok (byteLength (pre ++ contextWord ++ rest.takeWhile isBlank)) := by
    have := skipBlankAt_append (pre ++ contextWord) (rest ++ (closeMark ++ after))
    simpa [blanks, List.append_assoc] using this
  have within : byteLength (pre ++ contextWord ++ rest.takeWhile isBlank) ≤
      byteLength (pre ++ contextWord ++ rest) := by
    have := congrArg byteLength (List.takeWhile_append_dropWhile (p := isBlank) (l := rest))
    simp only [byteLength_append] at this ⊢
    omega
  have quoted := quotedBetween_append (pre ++ contextWord ++ rest.takeWhile isBlank) (dropBlank rest)
    (closeMark ++ after)
  rw [show pre ++ contextWord ++ rest.takeWhile isBlank ++ dropBlank rest =
      pre ++ contextWord ++ rest by simp [dropBlank, List.takeWhile_append_dropWhile]] at quoted
  simp only [contextAt, head, ← lastBlank_false, liftM_eq_ofCut, ofCut_ok, bind, Except.bind]
  by_cases blank : lastBlank false pre = true
  · simp only [blank, ↓reduceIte, stands, ofCut_ok, Bool.true_and]
    by_cases ends : (rest.isEmpty || startsBlank rest) = true
    · -- the keyword counts: the clause is the quoted string after its blanks
      simp only [ends, ↓reduceIte, skipped, ofCut_ok, Nat.min_eq_left within, quoted]
      cases quotedAt (dropBlank rest) <;> rfl
    · simp [ends, pure, Except.pure]
  · simp [blank, pure, Except.pure]

theorem lastBlank_concat (b : Bool) (pre : List Char) (c : Char) :
    lastBlank b (pre ++ [c]) = isBlank c := by
  simp [lastBlank]

theorem lastBlank_contextWord (pre : List Char) : lastBlank false (pre ++ contextWord) = false := by
  rw [lastBlank_false, getLast?_contextWord]
  rfl

/-- A context clause read at offsets, in a tag whose close mark follows `region`, reads as the
character reading of `region` after `pre`: the first `context` keyword the search finds is the
first one the character reading meets. -/
theorem contextClauseAt_append (line : Nat) (pre region after : List Char)
    (unclosed : NoMatchIn closeMark region (closeMark ++ after)) :
    contextClauseAt (pre ++ region ++ (closeMark ++ after)) (byteLength (pre ++ region)) line
        (byteLength pre) =
      (contextClause line (lastBlank false pre) region).mapError .failure := by
  -- induction on the text left to search, which each keyword passed shortens
  generalize size : region.length = n
  induction n using Nat.strong_induction_on generalizing pre region with
  | _ n ih =>
  rw [contextClauseAt]
  split
  · rename_i fault found
    rw [findBetween_append] at found
    cases found
  · rename_i found
    rw [findBetween_append] at found
    have absent : breakOn contextWord region = none := by simpa using found
    have read := @contextClause_append line (lastBlank false pre) region []
      (noMatchIn_of_breakOn_none absent)
    rw [List.append_nil] at read
    rw [read, contextClause]
    rfl
  · rename_i keyword found
    rw [findBetween_append] at found
    obtain ⟨⟨before, rest⟩, split, rfl⟩ := Option.map_eq_some_iff.mp (Except.ok.inj found)
    obtain rfl := breakOn_eq_some split
    have restUnclosed : NoMatchIn closeMark rest (closeMark ++ after) := unclosed.suffix
    dsimp only
    -- the character reading passes the text before the keyword
    have passed : contextClause line (lastBlank false pre) (before ++ contextWord ++ rest) =
        contextClause line (lastBlank false (pre ++ before)) (contextWord ++ rest) := by
      rw [List.append_assoc, contextClause_append (noMatchIn_of_breakOn split), lastBlank_append]
    rw [passed, contextClause_contextWord]
    have regrouped : pre ++ (before ++ contextWord ++ rest) ++ (closeMark ++ after) =
        pre ++ before ++ contextWord ++ rest ++ (closeMark ++ after) := by simp
    have limit : byteLength (pre ++ (before ++ contextWord ++ rest)) =
        byteLength (pre ++ before ++ contextWord ++ rest) := by simp
    rw [regrouped, limit, contextAt_append line (pre ++ before) rest after restUnclosed]
    -- a keyword that does not count: the search goes on after it
    have word : contextWord.length = 7 := rfl
    have next := ih rest.length (by rw [← size]; simp [word]; omega) (pre ++ before ++ contextWord) rest
      restUnclosed rfl
    rw [lastBlank_contextWord] at next
    have resume : byteLength (pre ++ before) + byteLength contextWord =
        byteLength (pre ++ before ++ contextWord) := by simp [Nat.add_assoc]
    by_cases counts : (lastBlank false (pre ++ before) && (rest.isEmpty || startsBlank rest)) = true
    · simp only [counts, ↓reduceIte]
      cases quotedAt (dropBlank rest) <;> rfl
    · simp only [counts, Bool.false_eq_true, ↓reduceIte, resume, next]

/-! ## Tags -/

/-- The offset reading of a tag that a character reading of it gives in the text `T`: the same
error, or the same message with the offset in `T` where the rest of the character reading
starts. -/
def atOffsets (T : List Char) :
    Except ScanError (Option TagMessage × List Char) → Except Stop TagScan
  | .error e => .error (.failure e)
  | .ok (message, rest) => .ok ⟨message, byteLength T - byteLength rest⟩

theorem quotedAt_eq_found {cs value rest : List Char} (read : quotedAt cs = .found value rest) :
    ∃ q, IsQuote q ∧ cs = q :: (value ++ q :: rest) := by
  cases cs with
  | nil => cases read
  | cons q cs =>
    simp only [quotedAt] at read
    split at read
    · rename_i quote
      split at read
      · rename_i value' rest' closing
        cases read
        refine ⟨q, by simpa [IsQuote] using quote, ?_⟩
        simp [breakOn_eq_some closing]
      · cases read
    · cases read

theorem IsQuote.utf8Size {q : Char} (quote : IsQuote q) : q.utf8Size = 1 := by
  rcases quote with rfl | rfl <;> rfl

/-- In a tag whose close mark follows `region`, blanks at the start of `region` are skipped up
to its first solid character or the close mark. -/
theorem skipBlankAt_region (pre region after : List Char) :
    skipBlankAt (pre ++ (region ++ closeMark ++ after)) (byteLength pre) =
      .ok (byteLength (pre ++ region.takeWhile isBlank)) := by
  have blanks : (region ++ (closeMark ++ after)).takeWhile isBlank = region.takeWhile isBlank :=
    (takeWhile_append_of_stop (by simp [closeMark]; decide) region).1
  simpa [blanks] using skipBlankAt_append pre (region ++ (closeMark ++ after))

theorem byteLength_takeWhile_le (p : Char → Bool) (cs : List Char) :
    byteLength (cs.takeWhile p) ≤ byteLength cs := by
  have := congrArg byteLength (List.takeWhile_append_dropWhile (p := p) (l := cs))
  simp only [byteLength_append] at this
  omega

/-- An inline tag read at offsets reads as its character reading. -/
theorem scanTransAt_append (line : Nat) (pre cs : List Char) :
    scanTransAt (pre ++ cs) (byteLength pre) line = atOffsets (pre ++ cs) (scanInline line cs) := by
  unfold scanInline
  cases closing : breakOn closeMark cs with
  | none =>
    simp [scanTransAt, findAt_append, closing, bind, Except.bind, throw, throwThe,
      MonadExceptOf.throw, atOffsets]
  | some parts =>
    obtain ⟨region, after⟩ := parts
    have unclosed := noMatchIn_of_breakOn closing
    obtain rfl := breakOn_eq_some closing
    have found : findAt (pre ++ (region ++ closeMark ++ after)) (byteLength pre) closeMark =
        .ok (some (byteLength (pre ++ region))) := by
      rw [findAt_append, closing]
      rfl
    have within : byteLength (pre ++ region.takeWhile isBlank) ≤ byteLength (pre ++ region) := by
      simpa using byteLength_takeWhile_le isBlank region
    have quoted := quotedBetween_append (pre ++ region.takeWhile isBlank) (dropBlank region)
      (closeMark ++ after)
    rw [show pre ++ region.takeWhile isBlank ++ dropBlank region = pre ++ region by
      simp [dropBlank, List.takeWhile_append_dropWhile]] at quoted
    have whole : pre ++ region ++ (closeMark ++ after) = pre ++ (region ++ closeMark ++ after) := by
      simp
    have stop : byteLength (pre ++ region) + byteLength closeMark =
        byteLength (pre ++ (region ++ closeMark ++ after)) - byteLength after := by
      simp only [byteLength_append]
      omega
    rw [whole] at quoted
    simp only [scanTransAt, found, skipBlankAt_region, liftM_eq_ofCut, ofCut_ok, bind, Except.bind,
      Nat.min_eq_left within, quoted]
    cases reading : quotedAt (dropBlank region) with
    | missing =>
      simp only [Quoted.spanAt, atOffsets, pure, Except.pure, Except.ok.injEq, TagScan.mk.injEq,
        true_and]
      omega
    | unterminated => rfl
    | found value rest =>
      -- the context clause is searched after the closing quote, up to the close mark
      obtain ⟨q, quote, split⟩ := quotedAt_eq_found reading
      have parts : region = region.takeWhile isBlank ++ [q] ++ value ++ [q] ++ rest := by
        have := (List.takeWhile_append_dropWhile (p := isBlank) (l := region)).symm
        rw [← dropBlank, split] at this
        simpa using this
      have restUnclosed : NoMatchIn closeMark rest (closeMark ++ after) := by
        rw [parts] at unclosed
        exact unclosed.suffix
      have context := contextClauseAt_append line
        (pre ++ region.takeWhile isBlank ++ [q] ++ value ++ [q]) rest after restUnclosed
      have notBlank : lastBlank false (pre ++ region.takeWhile isBlank ++ [q] ++ value ++ [q]) =
          false := by
        rw [lastBlank_concat, quote.not_blank]
      have text : pre ++ region.takeWhile isBlank ++ [q] ++ value ++ [q] ++ rest ++
          (closeMark ++ after) = pre ++ (region ++ closeMark ++ after) := by
        conv => rhs; rw [parts]
        simp
      have limit : byteLength (pre ++ region.takeWhile isBlank ++ [q] ++ value ++ [q] ++ rest) =
          byteLength (pre ++ region) := by
        conv => rhs; rw [parts]
        simp
      have resume : byteLength (pre ++ region.takeWhile isBlank ++ [q] ++ value ++ [q]) =
          byteLength (pre ++ region.takeWhile isBlank) + byteLength value + 2 := by
        simp [quote.utf8Size]
        omega
      rw [notBlank, text, limit, resume] at context
      simp only [Quoted.spanAt, context]
      cases contextClause line false rest with
      | error e => rfl
      | ok clause =>
        simp only [Except.mapError, atOffsets, pure, Except.pure, Except.ok.injEq, TagScan.mk.injEq,
          true_and]
        omega

/-! ## Blocks -/

theorem blockBodyAt_of_error {cs closing : List Char} {line bodyStart search : Nat}
    {context : String} {singular : Option (List Char)} {stop : Stop}
    (tagged : blockTagAt cs line closing context singular bodyStart search = .error stop) :
    blockBodyAt cs line closing context singular bodyStart search = .error stop := by
  rw [blockBodyAt]
  split <;> rename_i read <;> rw [tagged] at read <;> cases read
  rfl

theorem blockBodyAt_of_plural {cs closing one : List Char} {line bodyStart search next : Nat}
    {context : String} {singular : Option (List Char)}
    (tagged : blockTagAt cs line closing context singular bodyStart search = .ok (.plural one next)) :
    blockBodyAt cs line closing context singular bodyStart search =
      blockBodyAt cs line closing context (some one) next next := by
  rw [blockBodyAt]
  split <;> rename_i read <;> rw [tagged] at read <;> cases read
  rfl

theorem blockBodyAt_of_close {cs closing : List Char} {line bodyStart search : Nat}
    {context : String} {singular : Option (List Char)} {scan : TagScan}
    (tagged : blockTagAt cs line closing context singular bodyStart search = .ok (.close scan)) :
    blockBodyAt cs line closing context singular bodyStart search = .ok scan := by
  rw [blockBodyAt]
  split <;> rename_i read <;> rw [tagged] at read <;> cases read
  rfl

theorem blockBodyAt_of_other {cs closing : List Char} {line bodyStart search next : Nat}
    {context : String} {singular : Option (List Char)}
    (tagged : blockTagAt cs line closing context singular bodyStart search = .ok (.other next)) :
    blockBodyAt cs line closing context singular bodyStart search =
      blockBodyAt cs line closing context singular bodyStart next := by
  rw [blockBodyAt]
  split <;> rename_i read <;> rw [tagged] at read <;> cases read
  rfl

/-- What the reader of a block meets at the `{%` that the character reading of the body finds:
the tag's offset, the offset of its keyword, and there the reading of the text after the
keyword. -/
theorem blockTag_offsets (pre seg : List Char) {cs before after : List Char}
    (split : breakOn openMark cs = some (before, after)) (word : List Char) :
    findAt (pre ++ seg ++ cs) (byteLength (pre ++ seg)) openMark =
        .ok (some (byteLength (pre ++ seg ++ before))) ∧
      skipBlankAt (pre ++ seg ++ cs) (byteLength (pre ++ seg ++ before) + byteLength openMark) =
        .ok (byteLength (pre ++ seg ++ before ++ openMark ++ after.takeWhile isBlank)) ∧
      wordStandsAt (pre ++ seg ++ cs)
          (byteLength (pre ++ seg ++ before ++ openMark ++ after.takeWhile isBlank)) word =
        .ok (wordAt word (dropBlank after)).isSome ∧
      findAt (pre ++ seg ++ cs)
          (byteLength (pre ++ seg ++ before ++ openMark ++ after.takeWhile isBlank)) closeMark =
        .ok ((breakOn closeMark (dropBlank after)).map fun found =>
          byteLength (pre ++ seg ++ before ++ openMark ++ after.takeWhile isBlank ++ found.1)) ∧
      cutBytes (pre ++ seg ++ cs) (byteLength pre) (byteLength (pre ++ seg ++ before)) =
        .ok (seg ++ before) := by
  obtain rfl := breakOn_eq_some split
  have atKeyword : pre ++ seg ++ (before ++ openMark ++ after) =
      pre ++ seg ++ before ++ openMark ++ after.takeWhile isBlank ++ dropBlank after := by
    simp [dropBlank, List.takeWhile_append_dropWhile]
  refine ⟨?_, ?_, ?_, ?_, ?_⟩
  · rw [findAt_append, split]
    simp
  · have := skipBlankAt_append (pre ++ seg ++ before ++ openMark) after
    simpa [Nat.add_assoc] using this
  · rw [atKeyword, wordStandsAt_append]
  · rw [atKeyword, findAt_append]
  · have := cutBytes_append pre (seg ++ before) (openMark ++ after)
    simpa [Nat.add_assoc] using this

theorem pluralAt_of_stands {cs : List Char} {singular : Option (List Char)} {keyword : Nat}
    {b : Bool} (stands : wordStandsAt cs keyword pluralWord = .ok b) :
    pluralAt cs singular keyword = .ok (singular.isNone && b) := by
  cases singular <;> simp [pluralAt, stands, pure, Except.pure]

/-- The body of a block read at offsets reads as its character reading. The text read since the
last tag that counted, `seg`, starts at `bodyStart`, and the search goes on after it. -/
theorem blockBodyAt_append (line : Nat) (closing : List Char) (context : String)
    (singular : Option (List Char)) (seg cs : List Char) : ∀ pre : List Char,
    blockBodyAt (pre ++ seg ++ cs) line closing context singular (byteLength pre)
        (byteLength (pre ++ seg)) =
      atOffsets (pre ++ seg ++ cs)
        ((blockBody line closing context singular seg cs).map fun read => (some read.1, read.2)) := by
  fun_induction blockBody line closing context singular seg cs with
  | case1 singular seg cs absent =>
    intro pre
    have found : findAt (pre ++ seg ++ cs) (byteLength (pre ++ seg)) openMark = .ok none := by
      rw [findAt_append, absent]
      rfl
    rw [blockBodyAt_of_error (by simp only [blockTagAt, found, liftM_eq_ofCut, ofCut_ok, bind,
      Except.bind, throw, throwThe, MonadExceptOf.throw]; rfl)]
    rfl
  | case2 singular seg cs before after split plural unclosed =>
    intro pre
    obtain ⟨found, skipped, stands, closed, cut⟩ := blockTag_offsets pre seg split pluralWord
    rw [blockBodyAt_of_error (by simp only [blockTagAt, found, skipped, pluralAt_of_stands stands,
      plural, cut, closed, unclosed, liftM_eq_ofCut, ofCut_ok, bind, Except.bind, ↓reduceIte,
      Option.map_none, throw, throwThe, MonadExceptOf.throw]; rfl)]
    rfl
  | case3 singular seg cs before after split plural region rest closes ih =>
    -- the `plural` tag: the body goes on after its close mark, with the singular read
    intro pre
    obtain ⟨found, skipped, stands, closed, cut⟩ := blockTag_offsets pre seg split pluralWord
    have tagged : blockTagAt (pre ++ seg ++ cs) line closing context singular (byteLength pre)
        (byteLength (pre ++ seg)) = .ok (.plural (seg ++ before)
          (byteLength (pre ++ seg ++ before ++ openMark ++ after.takeWhile isBlank ++ region) +
            byteLength closeMark)) := by
      simp only [blockTagAt, found, skipped, pluralAt_of_stands stands, plural, cut, closed,
        closes, liftM_eq_ofCut, ofCut_ok, bind, Except.bind, ↓reduceIte, Option.map_some, pure,
        Except.pure]
    rw [blockBodyAt_of_plural tagged, ← byteLength_append]
    have text : pre ++ seg ++ cs = pre ++ seg ++ before ++ openMark ++ after.takeWhile isBlank ++
        region ++ closeMark ++ [] ++ rest := by
      rw [breakOn_eq_some split, List.append_nil, List.append_assoc _ region,
        List.append_assoc _ (region ++ closeMark), ← breakOn_eq_some closes]
      simp [dropBlank, List.takeWhile_append_dropWhile]
    have next := ih (pre ++ seg ++ before ++ openMark ++ after.takeWhile isBlank ++ region ++
      closeMark)
    rw [← text, List.append_nil] at next
    exact next
  | case4 singular seg cs before after split notPlural ending unclosed =>
    intro pre
    obtain ⟨found, skipped, stands, closed, cut⟩ := blockTag_offsets pre seg split pluralWord
    obtain ⟨-, -, ends, -, -⟩ := blockTag_offsets pre seg split closing
    rw [blockBodyAt_of_error (by
      simp only [blockTagAt, found, skipped, pluralAt_of_stands stands, notPlural, ends, ending,
        blockEndAt, closed, unclosed, liftM_eq_ofCut, ofCut_ok, bind, Except.bind, ↓reduceIte,
        Option.map_none, throw, throwThe, MonadExceptOf.throw, Bool.false_eq_true]
      rfl)]
    rfl
  | case5 singular seg cs before after split notPlural ending region rest closes _ one many forms =>
    -- the end tag: the message is the body before it
    intro pre
    obtain ⟨found, skipped, stands, closed, cut⟩ := blockTag_offsets pre seg split pluralWord
    obtain ⟨-, -, ends, -, -⟩ := blockTag_offsets pre seg split closing
    have read : blockForms singular (seg ++ before) = (one, many) := by
      cases singular <;> simpa [blockForms] using forms
    have stop : byteLength (pre ++ seg ++ before ++ openMark ++ after.takeWhile isBlank ++ region) +
        byteLength closeMark = byteLength (pre ++ seg ++ cs) - byteLength rest := by
      rw [breakOn_eq_some split]
      have whole := congrArg byteLength (List.takeWhile_append_dropWhile (p := isBlank) (l := after))
      rw [← dropBlank, breakOn_eq_some closes] at whole
      simp only [byteLength_append] at whole ⊢
      omega
    rw [blockBodyAt_of_close (by
      simp only [blockTagAt, found, skipped, pluralAt_of_stands stands, notPlural, ends, ending,
        blockEndAt, closed, closes, cut, read, liftM_eq_ofCut, ofCut_ok, bind, Except.bind,
        ↓reduceIte, Option.map_some, pure, Except.pure, Bool.false_eq_true]
      rfl)]
    simp only [atOffsets, Except.map, stop]
  | case6 singular seg cs before after split notPlural notEnding ih =>
    -- any other tag is part of the body
    intro pre
    obtain ⟨found, skipped, stands, closed, cut⟩ := blockTag_offsets pre seg split pluralWord
    obtain ⟨-, -, ends, -, -⟩ := blockTag_offsets pre seg split closing
    rw [blockBodyAt_of_other (by
      simp only [blockTagAt, found, skipped, pluralAt_of_stands stands, notPlural, ends, notEnding,
        liftM_eq_ofCut, ofCut_ok, bind, Except.bind, ↓reduceIte, pure, Except.pure,
        Bool.false_eq_true]
      rfl)]
    have text : pre ++ seg ++ cs = pre ++ (seg ++ before ++ openMark) ++ after := by
      rw [breakOn_eq_some split]
      simp
    have next := ih pre
    rw [← text] at next
    rw [← byteLength_append, show pre ++ seg ++ before ++ openMark = pre ++ (seg ++ before ++ openMark)
      by simp]
    exact next

/-- A block tag read at offsets reads as its character reading, where its keyword does not end
in a blank. -/
theorem scanBlockAt_append (line : Nat) (closing pre cs : List Char)
    (solid : lastBlank false pre = false) :
    scanBlockAt (pre ++ cs) (byteLength pre) line closing =
      atOffsets (pre ++ cs) ((scanBlock line closing cs).map fun read => (some read.1, read.2)) := by
  unfold scanBlock
  cases closing_mark : breakOn closeMark cs with
  | none =>
    simp [scanBlockAt, findAt_append, closing_mark, bind, Except.bind, throw, throwThe,
      MonadExceptOf.throw, atOffsets, Except.map]
  | some parts =>
    obtain ⟨region, body⟩ := parts
    have unclosed := noMatchIn_of_breakOn closing_mark
    obtain rfl := breakOn_eq_some closing_mark
    have found : findAt (pre ++ (region ++ closeMark ++ body)) (byteLength pre) closeMark =
        .ok (some (byteLength (pre ++ region))) := by
      rw [findAt_append, closing_mark]
      rfl
    have context := contextClauseAt_append line pre region body unclosed
    rw [solid, show pre ++ region ++ (closeMark ++ body) = pre ++ (region ++ closeMark ++ body) by
      simp] at context
    -- the body starts after the opening tag's close mark
    have text : pre ++ (region ++ closeMark ++ body) = pre ++ region ++ closeMark ++ [] ++ body := by
      simp
    have bodyStart : byteLength (pre ++ region) + byteLength closeMark =
        byteLength (pre ++ region ++ closeMark) := by
      simp [Nat.add_assoc]
    simp only [scanBlockAt, found, context, liftM_eq_ofCut, ofCut_ok, bind, Except.bind]
    cases contextClause line false region with
    | error e => rfl
    | ok clause =>
      have read := blockBodyAt_append line closing (clause.getD "") none [] body
        (pre ++ region ++ closeMark)
      rw [← text, List.append_nil] at read
      simp only [Except.mapError, bodyStart, read]

/-! ## Message tags -/

/-- The character reading of the message tag whose keyword, of kind `opener`, ends before
`cs`. -/
def scanTag (line : Nat) (cs : List Char) : Opener →
    Except ScanError (Option TagMessage × List Char)
  | .inline => scanInline line cs
  | .block closing => (scanBlock line closing cs).map fun read => (some read.1, read.2)

/-- A message tag read at offsets reads as its character reading, where its keyword does not
end in a blank. -/
theorem scanTagAt_append (line : Nat) (pre cs : List Char) (opener : Opener)
    (solid : lastBlank false pre = false) :
    scanTagAt (pre ++ cs) (byteLength pre) line opener = atOffsets (pre ++ cs) (scanTag line cs opener) := by
  cases opener with
  | inline => exact scanTransAt_append line pre cs
  | block closing => exact scanBlockAt_append line closing pre cs solid

/-- A message tag reports only its own line and leaves a suffix of the text. -/
theorem scanTag_reads (line : Nat) (cs : List Char) (opener : Opener) :
    ReadsAt (fun m => ∀ x ∈ m, x.line = line) line cs (scanTag line cs opener) := by
  cases opener with
  | inline => exact scanInline_reads line cs
  | block closing =>
    have reads := scanBlock_reads line closing cs
    simp only [scanTag]
    cases scanned : scanBlock line closing cs with
    | error e =>
      rw [scanned] at reads
      exact reads
    | ok read =>
      rw [scanned] at reads
      obtain ⟨message, rest⟩ := read
      exact ⟨fun x member => by cases member; exact reads.1, reads.2⟩

theorem keywordIn_eq_some {table : List (List Char × Opener)} {cs rest : List Char}
    {opener : Opener} (found : keywordIn table cs = some (opener, rest)) :
    ∃ word, (word, opener) ∈ table ∧ cs = word ++ rest := by
  induction table with
  | nil => cases found
  | cons entry table ih =>
    obtain ⟨word, o⟩ := entry
    simp only [keywordIn] at found
    split at found
    · rename_i after matched
      split at found
      · obtain ⟨w, member, split⟩ := ih found
        exact ⟨w, List.mem_cons_of_mem _ member, split⟩
      · obtain ⟨rfl, rfl⟩ := Prod.mk.inj (Option.some.inj found)
        unfold wordAt at matched
        split at matched
        · rename_i whole
          split at matched
          · cases matched
            exact ⟨word, List.mem_cons_self, afterPrefix?_eq_some whole⟩
          · cases matched
        · cases matched
    · obtain ⟨w, member, split⟩ := ih found
      exact ⟨w, List.mem_cons_of_mem _ member, split⟩

/-- Every keyword ends in a character that is not blank. -/
theorem keywords_solid : ∀ entry ∈ keywords, ∃ init c, entry.1 = init ++ [c] ∧ isBlank c = false := by
  intro entry member
  simp only [keywords, List.mem_cons, List.not_mem_nil, or_false] at member
  rcases member with rfl | rfl | rfl | rfl
  · exact ⟨"blocktranslat".toList, 'e', by decide, by decide⟩
  · exact ⟨"blocktran".toList, 's', by decide, by decide⟩
  · exact ⟨"translat".toList, 'e', by decide, by decide⟩
  · exact ⟨"tran".toList, 's', by decide, by decide⟩

/-- A keyword found splits the text after it, and the text up to its end does not end in a
blank. -/
theorem keyword_split {cs rest : List Char} {opener : Opener}
    (found : keywordIn keywords cs = some (opener, rest)) :
    ∃ word, cs = word ++ rest ∧ ∀ pre, lastBlank false (pre ++ word) = false := by
  obtain ⟨word, member, split⟩ := keywordIn_eq_some found
  obtain ⟨init, c, spelled, solid⟩ := keywords_solid _ member
  refine ⟨word, split, fun pre => ?_⟩
  rw [show word = (word, opener).1 from rfl, spelled, ← List.append_assoc, lastBlank_concat, solid]

end Localize.Template