import OpenQti.Config.Restart
import OpenQti.Lib.Buffer

/-!
# Reading any file

`read_settings_from_file` on a file of any bytes. The lines are those of `fgets`, in which
there may be a 0, and `parse_line` copies two tokens of a line to arrays of 64 bytes on the
stack. The copies stay inside the arrays, but the first token is used without a look at
whether there is one: `reads_safely_iff`. A file that was written by the modem is safe unless
a text in it has an empty line, but the first of its two comments has no second token, so that
the file is never accepted as it is and is written again at each start.

`parse_buffer_eq` relates `parse_line` on arrays to `parseLine`, which has no arrays.
-/

namespace OpenQti.Config

open Buffer Except Machine Text

/-! ## The code -/

/-- What reading a file must not do. -/
inductive FileFault where
  /-- The null pointer that `strtok` has returned is copied from. -/
  | nullToken
  /-- A store past the end of `setting` or `value`. -/
  | overflow (store : Overflow)
  deriving DecidableEq, Repr

/-- The size of `setting` and `value`. -/
def tokenSize : Nat := 64

/-- The text in a buffer that `fgets` has filled; it ends at the first 0 of the line. -/
def lineText (line : List UInt8) : List UInt8 := line.takeWhile (· ≠ 0)

/-- `strncpy(array, token, sizeof array)` and `array[sizeof(array) - 1] = 0`. -/
def copyToken (token : List UInt8) (array : Bytes) : Except FileFault Bytes :=
  Except.mapError .overflow do
    let array ← strncpy tokenSize token tokenSize array
    put tokenSize array (tokenSize - 1) 0

/-- `parse_line(buf)`, with what the arrays `setting` and `value` hold before. -/
def parseBuffer (s : ConfigPrototype) (setting value : Bytes) (line : List UInt8) :
    Except FileFault (ConfigPrototype × Nat) :=
  match strtok isSeparator (lineText line) with
  | none => .error .nullToken
  | some (token, rest) => do
      let setting ← copyToken token setting
      match strtok isSeparator rest with
      | none => .ok (s, 0)
      | some (token, _) => do
          let value ← copyToken token value
          if setting 0 = 35 then .ok (s, 1)
          else
            match parseOrder.find? fun field => string tokenSize setting = some (key field) with
            | some field => .ok (assign s ((string tokenSize value).getD []) field, 1)
            | none => .ok (s, 0)

/-- The variables of the loop in `read_settings_from_file`. -/
structure ReadState where
  settings : ConfigPrototype
  recreateCfgRequired : Bool
  line : Nat

/-- What the arrays of `parse_line` hold when it is called for a line. -/
abbrev Stack := Nat → Bytes × Bytes

/-- One round of the loop. -/
def readBuffer (stack : Stack) (state : ReadState) (line : List UInt8) :
    Except FileFault ReadState :=
  (parseBuffer state.settings (stack state.line).1 (stack state.line).2 line).map fun result =>
    ⟨result.1, state.recreateCfgRequired || result.2 < 1, state.line + 1⟩

/-- The lines that the loop reads into its buffer of 1024 bytes. -/
def fileLines (file : List UInt8) : List (List UInt8) := fgetsLines 1023 [] file

/-- The loop. -/
def readBuffers (stack : Stack) (s : ConfigPrototype) (file : List UInt8) :
    Except FileFault ReadState :=
  exec (readBuffer stack) ⟨s, false, 0⟩ (fileLines file)

/-- `read_settings_from_file()`: the settings, and whether they are written to the file. There may be
no file; `attemptedBoots` is the boot counter. -/
def readSettingsFromFile (stack : Stack) (s : ConfigPrototype) (file : Option (List UInt8))
    (attemptedBoots : Int) : Except FileFault (ConfigPrototype × Bool) :=
  match file with
  | none => .ok (s, true)
  | some file => do
      let state ← readBuffers stack s file
      if attemptedBoots > 3 ∧ state.settings.number .persistentLogging = 0 then
        .ok (state.settings.setNumber .persistentLogging 1, true)
      else .ok (state.settings, state.recreateCfgRequired)

/-! ## The properties -/

/-- The key of a line is one that `parse_line` compares with. -/
def KeyRecognised (line : List UInt8) : Prop :=
  ∃ field token rest, strtok isSeparator (lineText line) = some (token, rest) ∧ token = key field

/-- Reading the file, with these settings before, uses no null token and stays inside the arrays,
and no line with another key changes the settings. -/
def ReadsSafely (stack : Stack) (s : ConfigPrototype) (attemptedBoots : Int) (file : List UInt8) :
    Prop :=
  ((readSettingsFromFile stack s (some file) attemptedBoots).Ensures fun _ => True) ∧
  ∀ line ∈ fileLines file, ¬ KeyRecognised line → ∀ s setting value,
    (parseBuffer s setting value line).Ensures fun result => result.1 = s

/-- The file that holds the settings `t`, read with the settings `s` before, is accepted line by
line. -/
def AcceptsOwnFile (stack : Stack) (s t : ConfigPrototype) : Prop :=
  (readBuffers stack s (writeSettingsToStorage t)).Ensures fun state =>
    state.recreateCfgRequired = false

/-- Every line has a byte, before its first 0, that is not a separator. -/
def NoBlankLine (file : List UInt8) : Prop :=
  ∀ line ∈ fileLines file, ∃ b ∈ lineText line, isSeparator b = false

/-! ## One line -/

variable {s : ConfigPrototype} {setting value : Bytes} {token line file : List UInt8}

/-- A token that has been copied is terminated, and cut after 63 bytes. -/
theorem copy_token_ok (array : Bytes) (hclean : 0 ∉ token) :
    (copyToken token array).Ensures fun copied =>
      string tokenSize copied = some (token.take 63) ∧ copied 0 = token.getD 0 0 := by
  have hput : tokenSize - 1 < tokenSize := by decide
  refine ⟨Function.update
    (fun k => if k < tokenSize then token.getD k 0 else array k) (tokenSize - 1) 0, ?_, ?_, rfl⟩
  · rw [copyToken, strncpy_eq token array (Nat.le_refl _)]
    simp only [bind, Except.bind, put, if_pos hput, Except.mapError]
  · rw [string_eq_some_iff, List.length_take]
    refine ⟨?_, fun hzero => hclean (List.mem_of_mem_take hzero), fun k hk => ?_, ?_⟩
    · exact Nat.lt_of_le_of_lt (Nat.min_le_left 63 _) (by decide)
    · rw [List.length_take] at hk
      have hne : 0 + k ≠ tokenSize - 1 := by simp only [tokenSize]; omega
      have hlt : 0 + k < tokenSize := by simp only [tokenSize]; omega
      rw [Function.update_of_ne hne, if_pos hlt, List.getElem_take, Nat.zero_add]
      exact (List.getElem_eq_getD 0).symm
    · -- the terminator is the last byte of the array, or one that `strncpy` has filled up with
      by_cases hlong : 63 ≤ token.length
      · rw [Nat.min_eq_left hlong]
        rfl
      · have hne : token.length ≠ tokenSize - 1 := by simp only [tokenSize]; omega
        have hlt : token.length < tokenSize := by simp only [tokenSize]; omega
        rw [Nat.min_eq_right (by omega), Function.update_of_ne hne, if_pos hlt]
        simp

/-- The copies make no difference: the two tokens are found by `strcmp` as they are cut. -/
theorem parse_buffer_eq (s : ConfigPrototype) (setting value : Bytes) (line : List UInt8) :
    parseBuffer s setting value line =
      (parseLine s (lineText line)).mapError fun _ => .nullToken := by
  have hline : 0 ∉ lineText line := zero_not_mem_take_while line
  unfold parseBuffer parseLine
  cases hfirst : strtok isSeparator (lineText line) with
  | none => rfl
  | some first =>
      obtain ⟨token, rest⟩ := first
      obtain ⟨htoken, hrest⟩ := strtok_mem hfirst
      obtain ⟨hnonempty, -⟩ := strtok_token hfirst
      obtain ⟨setting, hsetting, hstring, hhead⟩ :=
        copy_token_ok setting (fun hzero => hline (htoken _ hzero))
      simp only [hsetting, bind, Except.bind]
      cases hsecond : strtok isSeparator rest with
      | none => rfl
      | some second =>
          obtain ⟨second, tail⟩ := second
          obtain ⟨hmem, -⟩ := strtok_mem hsecond
          obtain ⟨value, hvalue, hcopied, -⟩ :=
            copy_token_ok value (fun hzero => hline (hrest _ (hmem _ hzero)))
          have hcomment : setting 0 = 35 ↔ (token.take 63).head? = some 35 := by
            cases token with
            | nil => exact absurd rfl hnonempty
            | cons b token => simp [hhead]
          simp only [hvalue, hcopied, hstring, Option.some.injEq, Option.getD_some, hcomment]
          split_ifs
          · rfl
          · cases parseOrder.find? fun field => decide (token.take 63 = key field) <;> rfl

theorem length_key_lt (field : Field) : (key field).length < 63 := by
  cases field with
  | number field => cases field <;> simp only [key] <;> rw [length_ascii] <;> decide
  | text field => cases field <;> simp only [key] <;> rw [length_ascii] <;> decide

/-- A line with a token is parsed, and the settings are changed only for a key. -/
theorem parse_buffer_of_token {rest : List UInt8}
    (htoken : strtok isSeparator (lineText line) = some (token, rest)) :
    (parseBuffer s setting value line).Ensures fun result =>
      result.1 = s ∨ ∃ field, token = key field := by
  rw [parse_buffer_eq, parseLine, htoken]
  dsimp only
  cases strtok isSeparator rest with
  | none => exact ⟨_, rfl, .inl rfl⟩
  | some second =>
      dsimp only
      split_ifs with hcomment
      · exact ⟨_, rfl, .inl rfl⟩
      · cases hfind : parseOrder.find? fun field => token.take 63 = key field with
        | none => exact ⟨_, rfl, .inl rfl⟩
        | some field =>
            refine ⟨_, rfl, .inr ⟨field, ?_⟩⟩
            have hcut : token.take 63 = key field := by simpa using List.find?_some hfind
            -- no key is as long as a token that has been cut
            have hlength := congrArg List.length hcut
            have hkey := length_key_lt field
            rw [List.length_take] at hlength
            rwa [List.take_of_length_le (by omega)] at hcut

theorem token_iff :
    (∃ b ∈ lineText line, isSeparator b = false) ↔
      ∃ first, strtok isSeparator (lineText line) = some first := by
  rw [← Option.isSome_iff_exists, ← Option.ne_none_iff_isSome, Ne, strtok_eq_none_iff]
  simp

/-- `parse_line` faults exactly if the line has no token. -/
theorem ensures_parse_buffer :
    ((parseBuffer s setting value line).Ensures fun _ => True) ↔
      ∃ b ∈ lineText line, isSeparator b = false := by
  rw [token_iff]
  constructor
  · rintro ⟨result, hresult, -⟩
    by_contra hnone
    rw [parse_buffer_eq, parseLine, Option.eq_none_iff_forall_ne_some.2 (not_exists.1 hnone)]
      at hresult
    cases hresult
  · rintro ⟨⟨token, rest⟩, htoken⟩
    obtain ⟨result, hresult, -⟩ := parse_buffer_of_token htoken
    exact ⟨result, hresult, trivial⟩

/-- A line with another key changes no setting. -/
theorem parse_buffer_unrecognised (htoken : ∃ b ∈ lineText line, isSeparator b = false)
    (hkey : ¬ KeyRecognised line) :
    (parseBuffer s setting value line).Ensures fun result => result.1 = s := by
  obtain ⟨⟨token, rest⟩, htoken⟩ := token_iff.1 htoken
  obtain ⟨result, hresult, hsame | ⟨field, hfield⟩⟩ := parse_buffer_of_token htoken
  · exact ⟨result, hresult, hsame⟩
  · exact absurd ⟨field, token, rest, htoken, hfield⟩ hkey

/-! ## The whole file -/

theorem ensures_read_buffers (stack : Stack) :
    ((readBuffers stack s file).Ensures fun _ => True) ↔ NoBlankLine file := by
  refine exec_ensures_iff fun state line => ?_
  have hparse : ((parseBuffer state.settings (stack state.line).1 (stack state.line).2
      line).Ensures fun _ => True) ↔ ∃ b ∈ lineText line, isSeparator b = false :=
    ensures_parse_buffer
  rw [← hparse, readBuffer]
  cases parseBuffer state.settings (stack state.line).1 (stack state.line).2 line with
  | error fault => simp [Except.map, ensures_error]
  | ok result => simp [Except.map, ensures_ok]

/-- A file is read safely exactly if each of its lines has a token. -/
theorem reads_safely_iff (stack : Stack) (s : ConfigPrototype) (attemptedBoots : Int)
    (file : List UInt8) : ReadsSafely stack s attemptedBoots file ↔ NoBlankLine file := by
  constructor
  · rintro ⟨⟨result, hresult, -⟩, -⟩
    obtain ⟨state, hstate, -⟩ := bind_ok hresult
    exact (ensures_read_buffers _).1 ⟨state, hstate, trivial⟩
  · intro hlines
    refine ⟨?_, fun line hline hkey s setting value =>
      parse_buffer_unrecognised (hlines line hline) hkey⟩
    obtain ⟨state, hstate, -⟩ := (ensures_read_buffers (s := s) stack).2 hlines
    simp only [readSettingsFromFile, hstate, bind, Except.bind]
    split_ifs
    · exact ⟨_, rfl, trivial⟩
    · exact ⟨_, rfl, trivial⟩

/-- Once a line has not been accepted, the file is to be written again. -/
theorem recreate_of_exec {stack : Stack} {lines : List (List UInt8)} {state finish : ReadState}
    (h : exec (readBuffer stack) state lines = .ok finish)
    (hstate : state.recreateCfgRequired = true) : finish.recreateCfgRequired = true := by
  refine exec_invariant (fun state => state.recreateCfgRequired = true) hstate ?_ h
  intro state line next hrequired hnext
  obtain ⟨result, -, rfl⟩ := of_map_ok hnext
  simp [hrequired]

/-- The first line of a file that the modem has written is a comment without a value. -/
theorem file_lines_own (t : ConfigPrototype) :
    ∃ lines, fileLines (writeSettingsToStorage t) =
      (ascii "# OpenQTI Config file" ++ [newline]) :: lines := by
  have hnone : newline ∉ ascii "# OpenQTI Config file" := by
    rw [ascii_of_list]
    decide
  have hclean : ∀ b ∈ ascii "# OpenQTI Config file", b ≠ newline := fun b hb hline =>
    hnone (hline ▸ hb)
  have hlength : (ascii "# OpenQTI Config file").length < 1023 := by
    rw [length_ascii]
    decide
  refine ⟨fgetsLines 1023 []
    ((ascii "# key=value" :: writeOrder.map (settingLine t)).flatMap (· ++ [newline])), ?_⟩
  rw [fileLines, writeSettingsToStorage, headerLines, List.cons_append, List.flatMap_cons,
    List.append_assoc, List.singleton_append,
    fgets_lines_append _ _ hclean (by simpa using hlength), List.nil_append]
  rfl

theorem parse_first_comment (s : ConfigPrototype) (setting value : Bytes) :
    parseBuffer s setting value (ascii "# OpenQTI Config file" ++ [newline]) = .ok (s, 0) := by
  have hnone : strtok isSeparator [] = none := rfl
  have htoken : strtok isSeparator (lineText (ascii "# OpenQTI Config file" ++ [newline])) =
      some (ascii "# OpenQTI Config file", []) := by
    rw [ascii_of_list]
    decide
  rw [parse_buffer_eq, parseLine, htoken]
  simp only [hnone, Except.mapError]

/-- A file that the modem has written is written again, if reading it does not fault. -/
theorem own_file_recreated {stack : Stack} {t : ConfigPrototype} {state : ReadState}
    (h : readBuffers stack s (writeSettingsToStorage t) = .ok state) :
    state.recreateCfgRequired = true := by
  obtain ⟨lines, hlines⟩ := file_lines_own t
  rw [readBuffers, hlines, exec, readBuffer, parse_first_comment] at h
  exact recreate_of_exec h rfl

theorem own_file_not_accepted (stack : Stack) (s t : ConfigPrototype) :
    ¬ AcceptsOwnFile stack s t := by
  rintro ⟨state, hstate, hrequired⟩
  rw [own_file_recreated hstate] at hrequired
  cases hrequired

/-- For every file, reading it is safe exactly if each of its lines has a byte that is not a
separator; and for no settings is the file that holds them accepted. -/
theorem config_file_read_iff (stack : Stack) (s : ConfigPrototype) :
    (∀ attemptedBoots file, ReadsSafely stack s attemptedBoots file ↔ NoBlankLine file) ∧
      ∀ t, ¬ AcceptsOwnFile stack s t :=
  ⟨reads_safely_iff stack s, own_file_not_accepted stack s⟩

/-- An empty line in the file is copied from a null pointer, and settings are written again as soon
as they are read. -/
theorem empty_line_faults :
    ¬ (∀ stack s attemptedBoots file, ReadsSafely stack s attemptedBoots file) ∧
      ¬ ∀ stack s t, AcceptsOwnFile stack s t := by
  let stack : Stack := fun _ => (fun _ => 0, fun _ => 0)
  let s := setInitialConfig 0
  constructor
  · intro hall
    have hlines := (reads_safely_iff _ _ _ _).1 (hall stack s 0 [newline])
    obtain ⟨b, hb, hseparator⟩ := hlines [newline] (by decide)
    obtain rfl : b = newline := by simpa [lineText, newline] using hb
    exact absurd hseparator (by decide)
  · intro hall
    exact own_file_not_accepted stack s s (hall stack s s)

end OpenQti.Config
