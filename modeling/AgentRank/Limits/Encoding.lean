import AgentRank.Limits.Document

/-!
# Encodings of a body

This module models how the application's JSON parser reads the bytes of a body as code points,
and compares the scan of the bytes with the scan of what they encode.

The two agree on every body in UTF-8.  In the wider encodings a character has several bytes: a
backslash escapes the next byte and not the next character, and a byte of a letter may be taken
for a quote.  They agree there on the bodies that meet neither.
-/

namespace AgentRank.Limits

open Transition

inductive Encoding
  | utf8
  | utf16 (little : Bool)
  | utf32 (little : Bool)
deriving DecidableEq

/-- `json.detect_encoding`: the encoding of a body, and how long its byte order mark is. -/
def detectEncoding (body : List Nat) : Encoding × Nat :=
  match body with
  | 0x00 :: 0x00 :: 0xfe :: 0xff :: _ => (.utf32 false, 4)
  | 0xff :: 0xfe :: 0x00 :: 0x00 :: _ => (.utf32 true, 4)
  | 0xfe :: 0xff :: _ => (.utf16 false, 2)
  | 0xff :: 0xfe :: _ => (.utf16 true, 2)
  | 0xef :: 0xbb :: 0xbf :: _ => (.utf8, 3)
  | first :: second :: third :: fourth :: _ =>
      if first = 0 then (if second ≠ 0 then .utf16 false else .utf32 false, 0)
      else if second = 0 then
        (if third ≠ 0 ∨ fourth ≠ 0 then .utf16 true else .utf32 true, 0)
      else (.utf8, 0)
  | [first, second] =>
      if first = 0 then (.utf16 false, 0)
      else if second = 0 then (.utf16 true, 0)
      else (.utf8, 0)
  | _ => (.utf8, 0)

def isTail (byte : Nat) : Bool :=
  0x80 ≤ byte ∧ byte < 0xc0

def isHighSurrogate (unit : Nat) : Bool :=
  0xd800 ≤ unit ∧ unit < 0xdc00

def isLowSurrogate (unit : Nat) : Bool :=
  0xdc00 ≤ unit ∧ unit < 0xe000

/-- A code point of UTF-8, and the number of its bytes.  Surrogates pass. -/
def decodeUtf8 : List Nat → Option (Nat × Nat)
  | [] => none
  | first :: rest =>
      if first < 0x80 then some (first, 1)
      else if 0xc2 ≤ first ∧ first < 0xe0 then
        match rest with
        | second :: _ =>
            if isTail second then some ((first - 0xc0) * 64 + (second - 0x80), 2) else none
        | _ => none
      else if 0xe0 ≤ first ∧ first < 0xf0 then
        match rest with
        | second :: third :: _ =>
            let point := (first - 0xe0) * 4096 + (second - 0x80) * 64 + (third - 0x80)
            if isTail second ∧ isTail third ∧ 0x800 ≤ point then some (point, 3) else none
        | _ => none
      else if 0xf0 ≤ first ∧ first < 0xf5 then
        match rest with
        | second :: third :: fourth :: _ =>
            let point := (first - 0xf0) * 262144 + (second - 0x80) * 4096 + (third - 0x80) * 64 +
              (fourth - 0x80)
            if isTail second ∧ isTail third ∧ isTail fourth ∧ 0x10000 ≤ point ∧ point < 0x110000
            then some (point, 4) else none
        | _ => none
      else none

/-- Two bytes. -/
def unitOf (little : Bool) (first second : Nat) : Nat :=
  if little then first + 256 * second else 256 * first + second

/-- A code point of UTF-16, and the number of its bytes.  A lone surrogate passes. -/
def decodeUtf16 (little : Bool) : List Nat → Option (Nat × Nat)
  | first :: second :: rest =>
      let unit := unitOf little first second
      if isHighSurrogate unit then
        match rest with
        | third :: fourth :: _ =>
            let low := unitOf little third fourth
            if isLowSurrogate low then
              some (0x10000 + (unit - 0xd800) * 0x400 + (low - 0xdc00), 4)
            else some (unit, 2)
        | _ => some (unit, 2)
      else some (unit, 2)
  | _ => none

/-- A code point of UTF-32, and the number of its bytes.  Surrogates pass. -/
def decodeUtf32 (little : Bool) : List Nat → Option (Nat × Nat)
  | first :: second :: third :: fourth :: _ =>
      let point :=
        if little then first + 256 * second + 65536 * third + 16777216 * fourth
        else 16777216 * first + 65536 * second + 256 * third + fourth
      if point < 0x110000 then some (point, 4) else none
  | _ => none

def decodePoint : Encoding → List Nat → Option (Nat × Nat)
  | .utf8 => decodeUtf8
  | .utf16 little => decodeUtf16 little
  | .utf32 little => decodeUtf32 little

/-- A character of a body: its code point and its bytes. -/
abbrev Character :=
  Nat × List Nat

/-- The characters of a body. -/
def charactersFrom (encoding : Encoding) : Nat → List Nat → Option (List Character)
  | _, [] => some []
  | 0, _ => none
  | fuel + 1, bytes => do
      let (point, width) ← decodePoint encoding bytes
      let later ← charactersFrom encoding fuel (bytes.drop width)
      return (point, bytes.take width) :: later

/-- `body.decode(detect_encoding(body), "surrogatepass")`. -/
def characters (body : List Nat) : Option (List Character) :=
  let (encoding, mark) := detectEncoding body
  charactersFrom encoding body.length (body.drop mark)

/-- `json.loads`, of bytes: they are accepted as the document. -/
def AcceptsBytes (body : List Nat) (document : Document) : Prop :=
  ∃ read, characters body = some read ∧ Accepts (read.map Prod.fst) document

/-! ## Scanning the bytes -/

/-- No escaped quote and, in a letter, no byte that is taken for something else. -/
def IsPlain (scan : Scan) (character : Character) : Prop :=
  (scan.escaped = true → character.1 ≠ quote) ∧
    (0x80 ≤ character.1 → ∀ byte ∈ character.2, byte ≠ quote ∧ byte ≠ backslash ∧
      (scan.inString = false → byte ∉ opening ∧ byte ∉ closing))

/-- A body in UTF-8, or one whose characters the scan of its bytes tells apart. -/
def IsLegible (body : List Nat) : Prop :=
  (detectEncoding body).1 = .utf8 ∨ ∀ read, characters body = some read →
    Guarded (fun character scan => scan.step (Prod.fst character)) IsPlain {} read

/-- The scan between two characters: it is escaped inside of a string only. -/
def Settled (scan : Scan) : Prop :=
  scan.inString = false → scan.escaped = false

/-- Bytes that say nothing to the scan only use up an escape. -/
theorem run_silent {scan : Scan} {bytes : List Nat} (settled : Settled scan)
    (silent : ∀ byte ∈ bytes, byte ≠ quote ∧ byte ≠ backslash ∧
      (scan.inString = false → byte ∉ opening ∧ byte ∉ closing)) :
    (bytes = [] → scan.escaped = false) →
      run Scan.step scan bytes = { scan with escaped := false } ∧
        peak scan bytes = scan.depth := by
  intro used
  induction bytes generalizing scan with
  | nil =>
      obtain ⟨depth, inString, escaped⟩ := scan
      cases used rfl
      exact ⟨rfl, rfl⟩
  | cons byte rest ih =>
      rw [List.forall_mem_cons] at silent
      have step : scan.step byte = { scan with escaped := false } := by
        obtain ⟨depth, inString, escaped⟩ := scan
        cases inString with
        | true => cases escaped <;> simp [Scan.step, Scan.inText, silent.1.1, silent.1.2.1]
        | false =>
            cases settled rfl
            have plain := silent.1.2.2 rfl
            simp [Scan.step, silent.1.1, plain.1, plain.2]
      have later := @ih { scan with escaped := false } (fun _ => rfl) silent.2 fun _ => rfl
      rw [run_cons, peak, step]
      exact ⟨later.1, by rw [later.2]; exact max_self _⟩

theorem settled_step {scan : Scan} (settled : Settled scan) (byte : Nat) :
    Settled (scan.step byte) := by
  rw [Scan.step]
  split
  · next isInside =>
      rw [Scan.inText]
      split
      · exact fun _ => rfl
      · next free =>
          split
          · intro left
            rw [isInside] at left
            cases left
          · split
            · exact fun _ => Bool.eq_false_of_not_eq_true free
            · exact settled
  · next isOutside =>
      have free := settled (Bool.eq_false_of_not_eq_true isOutside)
      split
      · exact fun _ => free
      · split
        · exact fun _ => free
        · split
          · exact fun _ => free
          · exact settled

/-- A letter outside of the ASCII range only uses up an escape. -/
theorem step_of_letter {scan : Scan} (settled : Settled scan) {point : Nat}
    (letter : 0x80 ≤ point) : scan.step point = { scan with escaped := false } := by
  have silent : ∀ byte ∈ [point], byte ≠ quote ∧ byte ≠ backslash ∧
      (scan.inString = false → byte ∉ opening ∧ byte ∉ closing) := by
    intro byte member
    rw [List.mem_singleton.mp member]
    simp only [quote, backslash, opening, closing, List.mem_cons, List.not_mem_nil, or_false]
    omega
  exact (run_silent settled silent (by rintro ⟨⟩)).1

/-- A rule that relates the scan of the bytes to the scan of the characters. -/
structure Follows (encoding : Encoding) (allowed : Scan → Character → Prop)
    (aligned : Scan → Scan → Prop) : Prop where
  depth : ∀ {bytes points : Scan}, aligned bytes points → bytes.depth = points.depth
  step : ∀ {bytes points : Scan} {text : List Nat} {point width : Nat}, aligned bytes points →
    decodePoint encoding text = some (point, width) → allowed points (point, text.take width) →
      aligned (run Scan.step bytes (text.take width)) (points.step point) ∧
        peak bytes (text.take width) = max points.depth (points.step point).depth

variable {text : List Nat}

/-- Scans that follow one another come equally deep. -/
theorem Follows.peak_eq {encoding : Encoding} {allowed : Scan → Character → Prop}
    {aligned : Scan → Scan → Prop} (follows : Follows encoding allowed aligned) {fuel : Nat}
    {read : List Character} {bytes points : Scan}
    (decoded : charactersFrom encoding fuel text = some read) (start : aligned bytes points)
    (guarded : Guarded (fun character scan => scan.step (Prod.fst character)) allowed points read) :
    peak bytes text = peak points (read.map Prod.fst) := by
  induction fuel generalizing text read bytes points with
  | zero =>
      cases text with
      | nil =>
          rw [charactersFrom, Option.some.injEq] at decoded
          subst decoded
          exact follows.depth start
      | cons byte rest =>
          rw [charactersFrom.eq_def] at decoded
          cases decoded
  | succ fuel ih =>
      cases text with
      | nil =>
          rw [charactersFrom, Option.some.injEq] at decoded
          subst decoded
          exact follows.depth start
      | cons byte rest =>
          simp only [charactersFrom, Option.bind_eq_bind, Option.bind_eq_some_iff, Option.pure_def,
            Option.some.injEq] at decoded
          obtain ⟨⟨point, width⟩, first, later, others, rfl⟩ := decoded
          obtain ⟨aligned, deep⟩ := follows.step start first guarded.1
          have below := depth_le_peak (points.step point) (later.map Prod.fst)
          calc
            peak bytes (byte :: rest) =
                peak bytes ((byte :: rest).take width ++ (byte :: rest).drop width) := by
              rw [List.take_append_drop]
            _ = max (max points.depth (points.step point).depth)
                (peak (points.step point) (later.map Prod.fst)) := by
              rw [peak_append, deep, ih others aligned guarded.2]
            _ = max points.depth (peak (points.step point) (later.map Prod.fst)) := by
              rw [max_assoc, max_eq_right below]

theorem le_of_isTail {byte : Nat} (tail : isTail byte = true) : 0x80 ≤ byte := by
  simp only [isTail, decide_eq_true_eq] at tail
  exact tail.1

/-- In UTF-8 a character is its byte, or it is a letter of bytes outside of the ASCII range. -/
theorem decodeUtf8_bytes {point width : Nat} (decoded : decodeUtf8 text = some (point, width)) :
    text.take width = [point] ∨
      0x80 ≤ point ∧ text.take width ≠ [] ∧ ∀ byte ∈ text.take width, 0x80 ≤ byte := by
  rw [decodeUtf8.eq_def] at decoded
  split at decoded
  · cases decoded
  · next first rest =>
      split at decoded
      · cases decoded
        exact Or.inl rfl
      · next large =>
          have largeFirst : 0x80 ≤ first := Nat.not_lt.mp large
          right
          split at decoded
          · split at decoded
            · next second behind =>
                split at decoded
                · next tail =>
                    simp only [Option.some.injEq, Prod.mk.injEq] at decoded
                    obtain ⟨rfl, rfl⟩ := decoded
                    refine ⟨by omega, nofun, ?_⟩
                    simp [largeFirst, le_of_isTail tail]
                · cases decoded
            · cases decoded
          · split at decoded
            · split at decoded
              · next second third behind =>
                  dsimp only at decoded
                  split at decoded
                  · next tails =>
                      simp only [Option.some.injEq, Prod.mk.injEq] at decoded
                      obtain ⟨rfl, rfl⟩ := decoded
                      refine ⟨le_trans (by decide) tails.2.2, nofun, ?_⟩
                      simp [largeFirst, le_of_isTail tails.1, le_of_isTail tails.2.1]
                  · cases decoded
              · cases decoded
            · split at decoded
              · split at decoded
                · next second third fourth behind =>
                    dsimp only at decoded
                    split at decoded
                    · next tails =>
                        simp only [Option.some.injEq, Prod.mk.injEq] at decoded
                        obtain ⟨rfl, rfl⟩ := decoded
                        refine ⟨le_trans (by decide) tails.2.2.2.1, nofun, ?_⟩
                        simp [largeFirst, le_of_isTail tails.1, le_of_isTail tails.2.1,
                          le_of_isTail tails.2.2.1]
                    · cases decoded
                · cases decoded
              · cases decoded

/-- Bytes outside of the ASCII range say nothing to the scan. -/
theorem silent_of_large {byte : Nat} (large : 0x80 ≤ byte) :
    byte ≠ quote ∧ byte ≠ backslash ∧ byte ∉ opening ∧ byte ∉ closing := by
  simp only [quote, backslash, opening, closing, List.mem_cons, List.not_mem_nil, or_false]
  omega

theorem follows_utf8 : Follows .utf8 (fun _ _ => True)
    (fun bytes points => bytes = points ∧ Settled points) where
  depth aligned := congrArg Scan.depth aligned.1
  step := by
    rintro _ scan text point width ⟨rfl, settled⟩ decoded _
    rcases decodeUtf8_bytes decoded with single | ⟨letter, nonempty, large⟩
    · rw [single]
      exact ⟨⟨rfl, settled_step settled point⟩, rfl⟩
    · have silent := run_silent settled (fun byte member => by
        have plain := silent_of_large (large byte member)
        exact ⟨plain.1, plain.2.1, fun _ => plain.2.2⟩) fun empty => absurd empty nonempty
      refine ⟨⟨?_, settled_step settled point⟩, ?_⟩
      · rw [silent.1, step_of_letter settled letter]
      · rw [silent.2, step_of_letter settled letter]
        exact (max_self _).symm

/-! ## UTF-16 and UTF-32 -/

/-- In a wider encoding an ASCII character is its byte among zeros. -/
def Padded (little : Bool) (point : Nat) (bytes : List Nat) : Prop :=
  ∃ count, bytes = if little then point :: List.replicate (count + 1) 0
    else List.replicate (count + 1) 0 ++ [point]

variable {little : Bool}

theorem decodeUtf16_bytes {point width : Nat}
    (decoded : decodeUtf16 little text = some (point, width)) :
    text.take width ≠ [] ∧ (point < 0x80 → Padded little point (text.take width)) := by
  rw [decodeUtf16.eq_def] at decoded
  split at decoded
  · next first second rest =>
      have single : ∀ {point width : Nat},
          some (unitOf little first second, 2) = some (point, width) →
          (first :: second :: rest).take width ≠ [] ∧
            (point < 0x80 → Padded little point ((first :: second :: rest).take width)) := by
        intro point width same
        cases same
        refine ⟨nofun, fun small => ⟨0, ?_⟩⟩
        rw [unitOf] at small ⊢
        cases little with
        | true =>
            simp only [if_true] at small ⊢
            have zero : second = 0 := by omega
            subst zero
            simp
        | false =>
            simp only [Bool.false_eq_true, if_false] at small ⊢
            have zero : first = 0 := by omega
            subst zero
            simp
      dsimp only at decoded
      split at decoded
      · split at decoded
        · split at decoded
          · simp only [Option.some.injEq, Prod.mk.injEq] at decoded
            obtain ⟨rfl, rfl⟩ := decoded
            exact ⟨nofun, fun small => absurd small (by omega)⟩
          · exact single decoded
        · exact single decoded
      · exact single decoded
  · cases decoded

theorem decodeUtf32_bytes {point width : Nat}
    (decoded : decodeUtf32 little text = some (point, width)) :
    text.take width ≠ [] ∧ (point < 0x80 → Padded little point (text.take width)) := by
  rw [decodeUtf32.eq_def] at decoded
  split at decoded
  · next first second third fourth rest =>
      dsimp only at decoded
      cases little with
      | true =>
          simp only [if_true] at decoded
          split at decoded
          · simp only [Option.some.injEq, Prod.mk.injEq] at decoded
            obtain ⟨rfl, rfl⟩ := decoded
            refine ⟨nofun, fun small => ⟨2, ?_⟩⟩
            have zeros : second = 0 ∧ third = 0 ∧ fourth = 0 := by omega
            obtain ⟨rfl, rfl, rfl⟩ := zeros
            simp [List.replicate]
          · cases decoded
      | false =>
          simp only [Bool.false_eq_true, if_false] at decoded
          split at decoded
          · simp only [Option.some.injEq, Prod.mk.injEq] at decoded
            obtain ⟨rfl, rfl⟩ := decoded
            refine ⟨nofun, fun small => ⟨2, ?_⟩⟩
            have zeros : first = 0 ∧ second = 0 ∧ third = 0 := by omega
            obtain ⟨rfl, rfl, rfl⟩ := zeros
            simp [List.replicate]
          · cases decoded
  · cases decoded

/-- The scan of the bytes and the scan of the characters stand at the same place, up to an escape
that zeros use up. -/
structure Level (little : Bool) (bytes points : Scan) : Prop where
  depth : bytes.depth = points.depth
  inString : bytes.inString = points.inString
  settled : Settled bytes
  settledPoints : Settled points
  unescaped : little = true → bytes.escaped = false

/-- An ASCII character, where the bytes are not escaped. -/
theorem level_step {bytes points : Scan} (level : Level little bytes points)
    (free : bytes.escaped = false) {point : Nat}
    (unquoted : points.escaped = true → point ≠ quote) :
    (bytes.step point).depth = (points.step point).depth ∧
      (bytes.step point).inString = (points.step point).inString := by
  obtain ⟨depth, inString, _, settledPoints, _⟩ := level
  obtain ⟨bytesDepth, bytesInString, bytesEscaped⟩ := bytes
  obtain ⟨pointsDepth, pointsInString, pointsEscaped⟩ := points
  cases depth
  cases inString
  cases free
  cases pointsEscaped with
  | false => exact ⟨rfl, rfl⟩
  | true =>
      cases isInside : bytesInString with
      | false =>
          subst isInside
          cases settledPoints rfl
      | true =>
          have plain := unquoted rfl
          by_cases isBackslash : point = backslash <;>
            simp [Scan.step, Scan.inText, plain, isBackslash]

theorem run_zeros {scan : Scan} (settled : Settled scan) (count : Nat) :
    run Scan.step scan (List.replicate (count + 1) 0) = { scan with escaped := false } ∧
      peak scan (List.replicate (count + 1) 0) = scan.depth := by
  apply run_silent settled
  · intro byte member
    rw [List.eq_of_mem_replicate member]
    exact ⟨by decide, by decide, fun _ => ⟨by decide, by decide⟩⟩
  · nofun

/-- The characters of a wider encoding are told apart where they are plain. -/
theorem follows_wide {encoding : Encoding}
    (bytesOf : ∀ {text : List Nat} {point width : Nat},
      decodePoint encoding text = some (point, width) →
        text.take width ≠ [] ∧ (point < 0x80 → Padded little point (text.take width))) :
    Follows encoding IsPlain (Level little) where
  depth level := level.depth
  step := by
    intro bytes points text point width level decoded plain
    obtain ⟨nonempty, padded⟩ := bytesOf decoded
    by_cases small : point < 0x80
    · obtain ⟨count, shape⟩ := padded small
      cases little with
      | true =>
          rw [if_pos rfl] at shape
          have same := level_step level (level.unescaped rfl) plain.1
          have zeros := run_zeros (settled_step level.settled point) count
          rw [shape, run_cons, peak, zeros.1, zeros.2, level.depth, same.1]
          exact ⟨⟨rfl, same.2, fun _ => rfl, settled_step level.settledPoints point,
            fun _ => rfl⟩, rfl⟩
      | false =>
          rw [if_neg Bool.false_ne_true] at shape
          have zeros := run_zeros level.settled count
          have freed : Level false { bytes with escaped := false } points :=
            ⟨level.depth, level.inString, fun _ => rfl, level.settledPoints, (by rintro ⟨⟩)⟩
          have same := level_step freed rfl plain.1
          rw [shape, run_append, peak_append, zeros.1, zeros.2, run_cons, run_nil, peak, peak,
            same.1]
          refine ⟨⟨same.1, same.2, settled_step freed.settled point,
            settled_step level.settledPoints point, (by rintro ⟨⟩)⟩, ?_⟩
          rw [level.depth]
          exact (max_assoc _ _ _).symm.trans (by rw [max_self])
    · have letter : 0x80 ≤ point := Nat.not_lt.mp small
      have silent := run_silent level.settled (fun byte member => by
        have said := plain.2 letter byte member
        rw [← level.inString] at said
        exact said) fun empty => absurd empty nonempty
      rw [silent.1, silent.2, step_of_letter level.settledPoints letter]
      refine ⟨⟨level.depth, level.inString, fun _ => rfl, fun _ => rfl, fun _ => rfl⟩, ?_⟩
      rw [level.depth]
      exact (max_self _).symm

theorem follows_utf16 (little : Bool) : Follows (.utf16 little) IsPlain (Level little) :=
  follows_wide decodeUtf16_bytes

theorem follows_utf32 (little : Bool) : Follows (.utf32 little) IsPlain (Level little) :=
  follows_wide decodeUtf32_bytes

theorem peak_quiet_append {mark : List Nat} (quiet : ∀ byte ∈ mark, IsQuiet byte)
    (rest : List Nat) : peak {} (mark ++ rest) = peak {} rest := by
  obtain ⟨stays, deep⟩ := passes_of_isQuiet quiet 0
  have start : (outside 0) = {} := rfl
  rw [start] at stays deep
  rw [peak_append, stays, deep]
  exact max_eq_right (Nat.zero_le _)

/-- A byte order mark says nothing to the scan. -/
theorem peak_drop_mark (body : List Nat) :
    peak {} body = peak {} (body.drop (detectEncoding body).2) := by
  rw [detectEncoding.eq_def]
  split
  · exact @peak_quiet_append [0x00, 0x00, 0xfe, 0xff] (by decide) _
  · exact @peak_quiet_append [0xff, 0xfe, 0x00, 0x00] (by decide) _
  · exact @peak_quiet_append [0xfe, 0xff] (by decide) _
  · exact @peak_quiet_append [0xff, 0xfe] (by decide) _
  · exact @peak_quiet_append [0xef, 0xbb, 0xbf] (by decide) _
  · split
    · rfl
    · split <;> rfl
  · split
    · rfl
    · split <;> rfl
  · rfl

/-- The scan of a legible body comes as deep as the scan of what it encodes. -/
theorem peak_characters {body : List Nat} (legible : IsLegible body) {read : List Character}
    (decoded : characters body = some read) : peak {} body = peak {} (read.map Prod.fst) := by
  rw [peak_drop_mark]
  have from_ : charactersFrom (detectEncoding body).1 body.length
      (body.drop (detectEncoding body).2) = some read := decoded
  have level : ∀ little, Level little {} {} := fun _ =>
    ⟨rfl, rfl, fun _ => rfl, fun _ => rfl, fun _ => rfl⟩
  cases encoding : (detectEncoding body).1 with
  | utf8 =>
      rw [encoding] at from_
      exact follows_utf8.peak_eq from_ ⟨rfl, fun _ => rfl⟩ (guarded_of_forall fun _ _ => trivial)
  | utf16 little =>
      rw [encoding] at from_
      rcases legible with isUtf8 | guarded
      · rw [encoding] at isUtf8
        cases isUtf8
      · exact (follows_utf16 little).peak_eq from_ (level little) (guarded read decoded)
  | utf32 little =>
      rw [encoding] at from_
      rcases legible with isUtf8 | guarded
      · rw [encoding] at isUtf8
        cases isUtf8
      · exact (follows_utf32 little).peak_eq from_ (level little) (guarded read decoded)

/-- The scan of a legible body comes as deep as the accepted document nests. -/
theorem peak_of_acceptsBytes {body : List Nat} (legible : IsLegible body) {document : Document}
    (accepts : AcceptsBytes body document) : peak {} body = document.levels := by
  obtain ⟨read, decoded, text⟩ := accepts
  rw [peak_characters legible decoded, peak_of_accepts text]

end AgentRank.Limits
