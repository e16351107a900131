/-
# JSON texts are read as they were written

Every datum that a text can hold is read again from its text, spread over lines, whatever follows
it: texts because each escape stands for its character (`readText_escape`), numbers by
`writeNumber_start`, lists and objects because the readers go through the items and members as the
writer did. A reader has steps left as long as they outnumber the characters of what it reads.

Key definitions: `Datum.isStorable`.
Key theorems: `Json.readText_escape`, `Json.readValue_spread`, `Json.read_spread`.
-/
import CardLesson.Proofs.NumberText
import CardLesson.Proofs.Records

namespace CardLesson

/-- Whether a text can hold what a datum says: its number, or the keys of its members. -/
def Datum.isStorable : Datum → Bool
  | .number q => q.isStorable
  | .object members => (members.map Prod.fst).Nodup
  | _ => true

namespace Json

/-! ### Texts -/

section Texts

variable {c : Char} {done rest : List Char}

/-- Four figures in base sixteen stand for a character, unless they are a surrogate. -/
theorem readText_unicode {a b c d : Char} {m : ℕ} (h : hexValue? [a, b, c, d] = some m)
    (hm : ¬(0xd800 ≤ m ∧ m < 0xe000)) : readText done ('\\' :: 'u' :: a :: b :: c :: d :: rest) =
      readText (Char.ofNat m :: done) rest := by
  rw [readText.eq_def]
  simp only [h, if_neg hm]

theorem readText_short {d : Char} (h : escaped? d = some c) :
    readText done ('\\' :: d :: rest) = readText (c :: done) rest := by
  have hu : d ≠ 'u' := by
    rintro rfl
    cases h
  rw [readText.eq_def]
  split <;> next hcs => cases hcs <;> simp_all

theorem readText_plain (hq : c ≠ '"') (hb : c ≠ '\\') (hc : ¬c.toNat < 32) :
    readText done (c :: rest) = readText (c :: done) rest := by
  rw [readText.eq_def]
  split <;> next hcs => cases hcs <;> simp_all

/-- The characters that have an escape of two characters. -/
def shorts : List Char := ['"', '\\', '\n', '\r', '\t', '\x08', '\x0c']

theorem escape_short (h : c ∈ shorts) : ∃ d, escape c = ['\\', d] ∧ escaped? d = some c := by
  simp only [shorts, List.mem_cons, List.not_mem_nil, or_false] at h
  rcases h with rfl | rfl | rfl | rfl | rfl | rfl | rfl <;> exact ⟨_, rfl, rfl⟩

/-- The other control characters are written in base sixteen. -/
theorem escape_control (h : c ∉ shorts) (hc : c.toNat < 32) :
    ∃ a b, escape c = ['\\', 'u', '0', '0', a, b] ∧ hexValue? ['0', '0', a, b] = some c.toNat := by
  have hpadded : ∀ n < 32,
      List.replicate (4 - (Nat.toDigits 16 n).length) '0' ++ Nat.toDigits 16 n =
        ['0', '0', if n < 16 then '0' else '1', Nat.digitChar (n % 16)] ∧
        hexValue? ['0', '0', if n < 16 then '0' else '1', Nat.digitChar (n % 16)] = some n := by
    decide
  obtain ⟨hfigures, hvalue⟩ := hpadded c.toNat hc
  refine ⟨_, _, ?_, hvalue⟩
  rw [← hfigures]
  simp only [shorts, List.mem_cons, List.not_mem_nil, or_false, not_or] at h
  simp [escape, h, hc]

/-- **A character is read from its escape.** -/
theorem readText_escape (c : Char) :
    readText done (escape c ++ rest) = readText (c :: done) rest := by
  by_cases hshort : c ∈ shorts
  · obtain ⟨d, hescape, hd⟩ := escape_short hshort
    rw [hescape]
    exact readText_short hd
  by_cases hc : c.toNat < 32
  · obtain ⟨a, b, hescape, hvalue⟩ := escape_control hshort hc
    rw [hescape]
    refine (readText_unicode hvalue (by omega)).trans ?_
    rw [Char.ofNat_toNat]
    rfl
  · have hne : c ≠ '"' ∧ c ≠ '\\' := by
      constructor <;> rintro rfl <;> exact hshort (by decide)
    rw [escape_of_plain (not_lt.1 hc) hne.1 hne.2]
    exact readText_plain hne.1 hne.2 hc

theorem readText_escapes (s done : List Char) : readText done (s.flatMap escape ++ '"' :: rest) =
    .ok (String.ofList (done.reverse ++ s), rest) := by
  induction s generalizing done with
  | nil =>
    rw [List.append_nil]
    rfl
  | cons c s ih =>
    rw [List.flatMap_cons, List.append_assoc, readText_escape, ih, List.reverse_cons,
      List.append_assoc, List.singleton_append]

end Texts

/-! ### Blanks -/

section Blanks

variable {steps level : ℕ} {c : Char} {cs rest : List Char}

theorem skipSpace_cons (hc : isSpace c = false) : skipSpace (c :: cs) = c :: cs := by
  rw [skipSpace, List.dropWhile_cons_of_neg (Bool.not_eq_true _ ▸ hc)]

theorem skipSpace_newLine (level : ℕ) : skipSpace (newLine level ++ cs) = skipSpace cs := by
  refine List.dropWhile_append_of_pos fun c hc => ?_
  rcases List.mem_cons.1 hc with rfl | hc
  · rfl
  · rw [List.eq_of_mem_replicate hc]
    rfl

/-- Blanks before a value do not count. -/
theorem readValue_skip {cs' : List Char} (h : skipSpace cs = skipSpace cs') :
    readValue steps cs = readValue steps cs' := by
  cases steps with
  | zero => rfl
  | succ steps => rw [readValue, readValue, h]

theorem readMembers_skip {members : Members} {cs' : List Char} (h : skipSpace cs = skipSpace cs') :
    readMembers steps members cs = readMembers steps members cs' := by
  cases steps with
  | zero => rfl
  | succ steps => rw [readMembers, readMembers, h]

end Blanks

/-! ### Values without values inside -/

section Scalars

variable {steps : ℕ} {c : Char} {cs rest : List Char}

theorem readValue_quote : readValue (steps + 1) ('"' :: cs) =
    match readText [] cs with
    | .ok (s, rest) => .ok (.text s, rest)
    | .error flaw => .error flaw := by
  rw [readValue, skipSpace_cons rfl]
  rfl

theorem writeText_append (s : String) :
    writeText s ++ rest = '"' :: (s.toList.flatMap escape ++ '"' :: rest) := by
  simp [writeText]

theorem readText_writeText (s : String) :
    readText [] (s.toList.flatMap escape ++ '"' :: rest) = .ok (s, rest) := by
  rw [readText_escapes, List.reverse_nil, List.nil_append, String.ofList_toList]

theorem readValue_text (s : String) :
    readValue (steps + 1) (writeText s ++ rest) = .ok (.text s, rest) := by
  rw [writeText_append, readValue_quote, readText_writeText]

/-- A value that starts otherwise is a word or a number. -/
theorem readValue_scalar (hc : isSpace c = false) (hquote : c ≠ '"') (hlist : c ≠ '[')
    (hobject : c ≠ '\x7b') : readValue (steps + 1) (c :: cs) =
      match readWord (c :: cs) with
      | some r => .ok r
      | none => readNumber (c :: cs) := by
  rw [readValue, skipSpace_cons hc]
  split
  · next hcs => exact absurd (List.cons.inj hcs).1 hquote
  · next hcs => exact absurd (List.cons.inj hcs).1 hlist
  · next hcs => exact absurd (List.cons.inj hcs).1 hobject
  · rfl

/-- Whether a word starts as a number may: with a figure, or with a sign and a figure. -/
def startsFigure : List Char → Bool
  | [] | ['-'] => true
  | '-' :: c :: _ => c.isDigit
  | c :: _ => c.isDigit

theorem startsFigure_of_isPrefix {negative : Bool} {w : List Char} (hc : c.isDigit = true)
    (h : w <+: sign negative ++ c :: cs) : startsFigure w = true := by
  have hminus : c ≠ '-' := by
    rintro rfl
    cases hc
  obtain ⟨rest, hrest⟩ := h
  cases negative with
  | true =>
    rw [sign, if_pos rfl, List.singleton_append] at hrest
    rcases w with - | ⟨d, - | ⟨d', w⟩⟩
    · rfl
    · obtain ⟨rfl, -⟩ := List.cons.inj hrest
      rfl
    · obtain ⟨rfl, htail⟩ := List.cons.inj hrest
      obtain ⟨rfl, -⟩ := List.cons.inj htail
      exact hc
  | false =>
    rw [sign, if_neg Bool.false_ne_true, List.nil_append] at hrest
    rcases w with - | ⟨d, w⟩
    · rfl
    · obtain ⟨rfl, -⟩ := List.cons.inj hrest
      unfold startsFigure
      split <;> simp_all

theorem readWord_figure (negative : Bool) (hc : c.isDigit = true) :
    readWord (sign negative ++ c :: cs) = none := by
  have hwords : (words.all fun w => !startsFigure w.1) = true := by decide
  refine List.findSome?_eq_none_iff.2 fun w hw => ?_
  have hstart := List.all_eq_true.1 hwords w hw
  have hprefix : ¬w.1 <+: sign negative ++ c :: cs := fun h => by
    rw [startsFigure_of_isPrefix hc h] at hstart
    cases hstart
  have hafter : after? w.1 (sign negative ++ c :: cs) = none :=
    if_neg (mt List.isPrefixOf_iff_prefix.1 hprefix)
  show (after? w.1 (sign negative ++ c :: cs)).map _ = none
  rw [hafter]
  rfl

/-- The first character of a number. -/
theorem sign_append (negative : Bool) (hc : c.isDigit = true) (cs : List Char) :
    ∃ c' cs', sign negative ++ c :: cs = c' :: cs' ∧
      ∀ d : Char, d ≠ '-' → d.isDigit = false → c' ≠ d := by
  cases negative with
  | true => exact ⟨_, _, rfl, fun d hminus _ => hminus.symm⟩
  | false =>
    refine ⟨_, _, rfl, ?_⟩
    rintro d - hdigit rfl
    rw [hc] at hdigit
    cases hdigit

theorem readValue_number {q : Quantity} (h : q.isStorable = true) (hrest : EndsNumber rest) :
    readValue (steps + 1) (writeNumber q ++ rest) = .ok (.number q, rest) := by
  obtain ⟨negative, c, cs, hwrite, hc, hread⟩ := writeNumber_start h
  rw [hwrite, List.append_assoc, List.cons_append]
  obtain ⟨c', cs', hcs, hne⟩ := sign_append negative hc (cs ++ rest)
  have hspace : isSpace c' = false := by simp [isSpace, hne]
  rw [hcs, readValue_scalar hspace (hne _ (by decide) rfl) (hne _ (by decide) rfl)
    (hne _ (by decide) rfl), ← hcs, readWord_figure negative hc, readNumber_sign negative hc,
    hread rest hrest]
  rfl

theorem readValue_word {w : List Char} {d : Datum} (hword : readWord (w ++ rest) = some (d, rest))
    (hspace : ∀ c ∈ (w ++ rest).head?, isSpace c = false ∧ c ≠ '"' ∧ c ≠ '[' ∧ c ≠ '\x7b') :
    readValue (steps + 1) (w ++ rest) = .ok (d, rest) := by
  generalize w ++ rest = cs at hword hspace
  cases cs with
  | nil => cases hword
  | cons c cs =>
    obtain ⟨hspace, hquote, hlist, hobject⟩ := hspace c rfl
    rw [readValue_scalar hspace hquote hlist hobject, hword]

end Scalars

/-! ### Lists and objects -/

section Nested

variable {steps level : ℕ} {d : Datum} {cs cs' rest : List Char} {done : List Datum}
  {members : Members} {key : String}

theorem readValue_list (h : ∀ cs', skipSpace cs ≠ ']' :: cs') :
    readValue (steps + 1) ('[' :: cs) = readItems steps [] cs := by
  rw [readValue, skipSpace_cons rfl]
  split
  · next hcs => cases hcs
  · next hcs =>
    obtain ⟨-, rfl⟩ := List.cons.inj hcs
    split
    · next hempty => exact absurd hempty (h _)
    · rfl
  · next hcs => cases hcs
  · next hother _ => exact absurd rfl (hother _)

theorem readValue_object (h : ∀ cs', skipSpace cs ≠ '\x7d' :: cs') :
    readValue (steps + 1) ('\x7b' :: cs) = readMembers steps [] cs := by
  rw [readValue, skipSpace_cons rfl]
  split
  · next hcs => cases hcs
  · next hcs => cases hcs
  · next hcs =>
    obtain ⟨-, rfl⟩ := List.cons.inj hcs
    split
    · next hempty => exact absurd hempty (h _)
    · rfl
  · next hother => exact absurd rfl (hother _)

theorem readItems_last (h : readValue steps cs = .ok (d, cs'))
    (hend : skipSpace cs' = ']' :: rest) :
    readItems (steps + 1) done cs = .ok (.list (d :: done).reverse, rest) := by
  rw [readItems, h]
  dsimp only
  rw [hend]
  rfl

theorem readItems_next (h : readValue steps cs = .ok (d, cs'))
    (hnext : skipSpace cs' = ',' :: rest) :
    readItems (steps + 1) done cs = readItems steps (d :: done) rest := by
  rw [readItems, h]
  dsimp only
  rw [hnext]
  rfl

/-- A member with a key of its own is read, and then what follows it. -/
theorem readMembers_key (hkey : hasMember key members = false)
    (h : readValue steps cs = .ok (d, cs')) :
    readMembers (steps + 1) members (writeText key ++ ':' :: cs) =
      match skipSpace cs' with
      | '\x7d' :: rest => .ok (.object ((key, d) :: members).reverse, rest)
      | ',' :: rest => readMembers steps ((key, d) :: members) rest
      | _ => .error .malformed := by
  have hcolon : skipSpace (':' :: cs) = ':' :: cs := skipSpace_cons rfl
  rw [writeText_append, readMembers, skipSpace_cons rfl]
  split
  · next hcs =>
    obtain ⟨-, rfl⟩ := List.cons.inj hcs
    rw [readText_writeText]
    dsimp only
    rw [hcolon]
    split
    · next hcs =>
      obtain ⟨-, rfl⟩ := List.cons.inj hcs
      rw [h, hkey]
      rfl
    · next hother => exact absurd rfl (hother _)
  · next hother => exact absurd rfl (hother _)

theorem readMembers_last (hkey : hasMember key members = false)
    (h : readValue steps cs = .ok (d, cs')) (hend : skipSpace cs' = '\x7d' :: rest) :
    readMembers (steps + 1) members (writeText key ++ ':' :: cs) =
      .ok (.object ((key, d) :: members).reverse, rest) := by
  rw [readMembers_key hkey h, hend]
  rfl

theorem readMembers_next (hkey : hasMember key members = false)
    (h : readValue steps cs = .ok (d, cs')) (hnext : skipSpace cs' = ',' :: rest) :
    readMembers (steps + 1) members (writeText key ++ ':' :: cs) =
      readMembers steps ((key, d) :: members) rest := by
  rw [readMembers_key hkey h, hnext]
  rfl

/-- A datum starts with a character that is no blank and does not end a list. -/
theorem spreadAt_start (level : ℕ) (h : d.every Datum.isStorable = true) :
    ∃ c cs, spreadAt level d = c :: cs ∧ isSpace c = false ∧ c ≠ ']' := by
  match d with
  | .null => exact ⟨_, _, rfl, rfl, by decide⟩
  | .truth true => exact ⟨_, _, rfl, rfl, by decide⟩
  | .truth false => exact ⟨_, _, rfl, rfl, by decide⟩
  | .number q =>
    obtain ⟨negative, c, cs, hwrite, hc, -⟩ := writeNumber_start h
    obtain ⟨c', cs', hcs, hne⟩ := sign_append negative hc cs
    have hspace : isSpace c' = false := by simp [isSpace, hne]
    exact ⟨c', cs', hwrite.trans hcs, hspace, hne _ (by decide) rfl⟩
  | .text s => exact ⟨_, _, rfl, rfl, by decide⟩
  | .list [] => exact ⟨_, _, rfl, rfl, by decide⟩
  | .list (_ :: _) => exact ⟨_, _, rfl, rfl, by decide⟩
  | .object [] => exact ⟨_, _, rfl, rfl, by decide⟩
  | .object (_ :: _) => exact ⟨_, _, rfl, rfl, by decide⟩

theorem endsNumber_newLine : EndsNumber (newLine level ++ cs) := by
  rintro _ ⟨⟩
  decide

theorem endsNumber_comma : EndsNumber (',' :: cs) := by
  rintro _ ⟨⟩
  decide

theorem hasMember_of_nodup {ms : Members}
    (h : ((members.reverse ++ (key, d) :: ms).map Prod.fst).Nodup) :
    hasMember key members = false := by
  rw [List.map_append, List.map_cons, List.nodup_append] at h
  rw [hasMember, List.any_eq_false]
  intro m hm heq
  exact h.2.2 m.1 (List.mem_map_of_mem (List.mem_reverse.2 hm)) key List.mem_cons_self
    (beq_iff_eq.1 heq)

theorem spreadItems_cons (level : ℕ) (d : Datum) (ds : List Datum) :
    ∃ more, spreadItems level (d :: ds) = newLine level ++ (spreadAt level d ++ more) := by
  cases ds with
  | nil => exact ⟨[], by rw [spreadItems, List.append_nil]⟩
  | cons d' ds => exact ⟨_, rfl⟩

theorem spreadMembers_cons (level : ℕ) (m : String × Datum) (ms : Members) :
    ∃ more, spreadMembers level (m :: ms) = newLine level ++ (writeText m.1 ++ more) := by
  cases ms with
  | nil => exact ⟨_, rfl⟩
  | cons m' ms => exact ⟨_, rfl⟩

theorem skipSpace_spreadItems {ds : List Datum} (h : d.every Datum.isStorable = true) :
    skipSpace (spreadItems level (d :: ds) ++ cs) ≠ ']' :: cs' := by
  obtain ⟨c, text, htext, hspace, hne⟩ := spreadAt_start level h
  obtain ⟨more, hmore⟩ := spreadItems_cons level d ds
  rw [hmore, htext, List.append_assoc, skipSpace_newLine, List.cons_append, List.cons_append,
    skipSpace_cons hspace]
  exact fun hcons => hne (List.cons.inj hcons).1

theorem skipSpace_spreadMembers {m : String × Datum} {ms : Members} :
    skipSpace (spreadMembers level (m :: ms) ++ cs) ≠ '\x7d' :: cs' := by
  obtain ⟨more, hmore⟩ := spreadMembers_cons level m ms
  rw [hmore, List.append_assoc, skipSpace_newLine, List.append_assoc, writeText_append,
    skipSpace_cons rfl]
  exact fun hcons => absurd (List.cons.inj hcons).1 (by decide)

end Nested

/-! ### Data -/

theorem readValue_blank {steps : ℕ} {cs : List Char} :
    readValue steps (' ' :: cs) = readValue steps cs := readValue_skip rfl

mutual

/-- **A datum is read from its text, whatever follows.** -/
theorem readValue_spread : ∀ (d : Datum) (level : ℕ) {steps : ℕ} (rest : List Char),
    d.every Datum.isStorable = true → (spreadAt level d).length < steps → EndsNumber rest →
    readValue steps (spreadAt level d ++ rest) = .ok (d, rest)
  | d, level, 0, rest, _, hsteps, _ => absurd hsteps (Nat.not_lt_zero _)
  | .null, level, steps + 1, rest, _, _, _ =>
    readValue_word (w := "null".toList) rfl (by rintro _ ⟨⟩; decide)
  | .truth true, level, steps + 1, rest, _, _, _ =>
    readValue_word (w := "true".toList) rfl (by rintro _ ⟨⟩; decide)
  | .truth false, level, steps + 1, rest, _, _, _ =>
    readValue_word (w := "false".toList) rfl (by rintro _ ⟨⟩; decide)
  | .number q, level, steps + 1, rest, h, _, hrest => readValue_number h hrest
  | .text s, level, steps + 1, rest, _, _, _ => readValue_text s
  | .list [], level, steps + 1, rest, _, _, _ => by
    rw [readValue]
    rfl
  | .list (d :: ds), level, steps + 1, rest, h, hsteps, _ => by
    have hds := (Datum.every_list.1 h).2
    have hd := (Bool.and_eq_true_iff.1 hds).1
    have htext : spreadAt level (.list (d :: ds)) ++ rest =
        '[' :: (spreadItems (level + 1) (d :: ds) ++ (newLine level ++ ']' :: rest)) := by
      simp [spreadAt]
    have hlength : (spreadItems (level + 1) (d :: ds)).length < steps := by
      simp only [spreadAt, List.length_cons, List.length_append] at hsteps
      omega
    rw [htext, readValue_list fun _ => skipSpace_spreadItems hd,
      readItems_spread (d :: ds) (List.cons_ne_nil d ds) hds hlength]
    rfl
  | .object [], level, steps + 1, rest, _, _, _ => by
    rw [readValue]
    rfl
  | .object (m :: ms), level, steps + 1, rest, h, hsteps, _ => by
    obtain ⟨hself, hms⟩ := Datum.every_object.1 h
    have hkeys : (([].reverse ++ m :: ms).map Prod.fst).Nodup := of_decide_eq_true hself
    have htext : spreadAt level (.object (m :: ms)) ++ rest =
        '\x7b' :: (spreadMembers (level + 1) (m :: ms) ++ (newLine level ++ '\x7d' :: rest)) := by
      simp [spreadAt]
    have hlength : (spreadMembers (level + 1) (m :: ms)).length < steps := by
      simp only [spreadAt, List.length_cons, List.length_append] at hsteps
      omega
    rw [htext, readValue_object fun _ => skipSpace_spreadMembers,
      readMembers_spread (m :: ms) (List.cons_ne_nil m ms) hkeys hms hlength]
    rfl
termination_by structural d => d

theorem readItems_spread : ∀ (ds : List Datum) {level level' steps : ℕ} {done : List Datum}
    {rest : List Char}, ds ≠ [] → Datum.everyItem Datum.isStorable ds = true →
    (spreadItems level ds).length < steps →
    readItems steps done (spreadItems level ds ++ (newLine level' ++ ']' :: rest)) =
      .ok (.list (done.reverse ++ ds), rest)
  | [], _, _, _, _, _, hne, _, _ => absurd rfl hne
  | ds, _, _, 0, _, _, _, _, hsteps => absurd hsteps (Nat.not_lt_zero _)
  | [d], level, level', steps + 1, done, rest, _, h, hsteps => by
    have hlength : (spreadAt level d).length < steps := by
      simp only [spreadItems, newLine, List.length_append, List.length_cons] at hsteps
      omega
    have hread := readValue_spread d level (newLine level' ++ ']' :: rest)
      (Bool.and_eq_true_iff.1 h).1 hlength endsNumber_newLine
    rw [← readValue_skip (skipSpace_newLine level)] at hread
    rw [spreadItems, List.append_assoc,
      readItems_last hread ((skipSpace_newLine level').trans (skipSpace_cons rfl)),
      List.reverse_cons]
  | d :: d' :: ds, level, level', steps + 1, done, rest, _, h, hsteps => by
    obtain ⟨hd, hds⟩ := Bool.and_eq_true_iff.1 h
    have hlength : (spreadAt level d).length < steps ∧
        (spreadItems level (d' :: ds)).length < steps := by
      simp only [spreadItems, newLine, List.length_append, List.length_cons] at hsteps
      omega
    have hread := readValue_spread d level
      (',' :: (spreadItems level (d' :: ds) ++ (newLine level' ++ ']' :: rest)))
      hd hlength.1 endsNumber_comma
    rw [← readValue_skip (skipSpace_newLine level)] at hread
    rw [spreadItems, List.append_assoc, List.append_assoc, List.cons_append,
      readItems_next hread (skipSpace_cons rfl),
      readItems_spread (d' :: ds) (List.cons_ne_nil d' ds) hds hlength.2, List.reverse_cons,
      List.append_assoc, List.singleton_append]
    exact nofun
termination_by structural ds => ds

theorem readMembers_spread : ∀ (ms : List (String × Datum)) {level level' steps : ℕ}
    {done : Members} {rest : List Char}, ms ≠ [] →
    ((done.reverse ++ ms).map Prod.fst).Nodup → Datum.everyMember Datum.isStorable ms = true →
    (spreadMembers level ms).length < steps →
    readMembers steps done (spreadMembers level ms ++ (newLine level' ++ '\x7d' :: rest)) =
      .ok (.object (done.reverse ++ ms), rest)
  | [], _, _, _, _, _, hne, _, _, _ => absurd rfl hne
  | ms, _, _, 0, _, _, _, _, _, hsteps => absurd hsteps (Nat.not_lt_zero _)
  | [(key, d)], level, level', steps + 1, done, rest, _, hkeys, h, hsteps => by
    have hlength : (spreadAt level d).length < steps := by
      simp only [spreadMembers, newLine, List.length_append, List.length_cons] at hsteps
      omega
    have hread := readValue_spread d level (newLine level' ++ '\x7d' :: rest)
      (Bool.and_eq_true_iff.1 h).1 hlength endsNumber_newLine
    rw [← readValue_blank] at hread
    rw [spreadMembers, List.append_assoc, readMembers_skip (skipSpace_newLine level),
      List.append_assoc, List.cons_append, List.cons_append,
      readMembers_last (hasMember_of_nodup hkeys) hread
        ((skipSpace_newLine level').trans (skipSpace_cons rfl)), List.reverse_cons]
  | (key, d) :: m :: ms, level, level', steps + 1, done, rest, _, hkeys, h, hsteps => by
    obtain ⟨hd, hms⟩ := Bool.and_eq_true_iff.1 h
    have hlength : (spreadAt level d).length < steps ∧
        (spreadMembers level (m :: ms)).length < steps := by
      simp only [spreadMembers, newLine, List.length_append, List.length_cons] at hsteps
      omega
    have hread := readValue_spread d level
      (',' :: (spreadMembers level (m :: ms) ++ (newLine level' ++ '\x7d' :: rest)))
      hd hlength.1 endsNumber_comma
    rw [← readValue_blank] at hread
    have hkeys' : ((((key, d) :: done).reverse ++ m :: ms).map Prod.fst).Nodup := by
      rwa [List.reverse_cons, List.append_assoc, List.singleton_append]
    rw [spreadMembers, List.append_assoc, readMembers_skip (skipSpace_newLine level),
      List.append_assoc, List.cons_append, List.cons_append, List.append_assoc, List.cons_append,
      readMembers_next (hasMember_of_nodup hkeys) hread (skipSpace_cons rfl),
      readMembers_spread (m :: ms) (List.cons_ne_nil m ms) hkeys' hms hlength.2,
      List.reverse_cons, List.append_assoc, List.singleton_append]
    exact nofun
termination_by structural ms => ms

end

/-- **A text that is spread over lines is read as the datum it was written from.** -/
theorem read_spread {d : Datum} (h : d.every Datum.isStorable = true) :
    read (spread d).toList = .ok d := by
  have hsteps : (spreadAt 0 d).length < 2 * (spreadAt 0 d).length + 2 := by omega
  have hread := readValue_spread d 0 [] h hsteps endsNumber_nil
  rw [List.append_nil] at hread
  rw [read, spread, String.toList_ofList, hread]
  rfl

end Json
end CardLesson
