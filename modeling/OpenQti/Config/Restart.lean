import Mathlib.Data.List.Nodup
import OpenQti.Config.Settings
import OpenQti.Lib.Ensures

/-!
# Settings across a restart

What `parse_line` makes of the lines of `write_settings_to_storage`. A text is cut at the next
separator and after 63 bytes, and an empty one leaves the field as it was. `survives_restart_iff`
says which settings come back: those all of whose texts are short and free of separators, and
empty only where the initial text is. `settings_survive_iff` is the same for the settings that
the setters can reach.
-/

namespace OpenQti.Config

open Except Machine Text

/-! ## The property -/

/-- Starting again from the initial settings, the file gives back every field. -/
def SurvivesRestart (garbage : UInt8) (s : ConfigPrototype) : Prop :=
  (readLines (setInitialConfig garbage) (writeSettingsToStorage s)).Ensures fun result =>
    (∀ field, result.1.number field = s.number field) ∧
      ∀ field, result.1.text field = s.text field

/-- A text that is one token, and not a long one. -/
def ShortToken (value : List UInt8) : Prop :=
  (∀ b ∈ value, isSeparator b = false) ∧ value.length ≤ 63

/-- Whether a text is a short token is found by looking at its bytes. -/
instance (value : List UInt8) : Decidable (ShortToken value) :=
  decidable_of_iff (value.all (!isSeparator ·) = true ∧ value.length ≤ 63) (by
    simp only [ShortToken, List.all_eq_true, Bool.not_eq_true'])

/-- A text that the field gets back. -/
def ReadsBack (field : TextField) (value : List UInt8) : Prop :=
  ShortToken value ∧ (initialText field ≠ [] → value ≠ [])

/-! ## What a line sets -/

variable {s t target : ConfigPrototype} {field : Field} {value buf : List UInt8}

theorem key_ne_nil (field : Field) : key field ≠ [] := by
  cases field with
  | number field => cases field <;> simp only [key] <;> rw [ascii_of_list] <;> decide
  | text field => cases field <;> simp only [key] <;> rw [ascii_of_list] <;> decide

theorem key_short_token (field : Field) : ShortToken (key field) := by
  cases field with
  | number field => cases field <;> simp only [key] <;> rw [ascii_of_list] <;> decide
  | text field => cases field <;> simp only [key] <;> rw [ascii_of_list] <;> decide

/-- The initial texts come back. -/
theorem initial_text_reads_back (field : TextField) : ReadsBack field (initialText field) := by
  have htoken : ShortToken (initialText field) := by cases field <;> decide
  exact ⟨htoken, id⟩

theorem key_not_comment (field : Field) : (key field).head? ≠ some 35 := by
  cases field with
  | number field => cases field <;> simp only [key] <;> rw [ascii_of_list] <;> decide
  | text field => cases field <;> simp only [key] <;> rw [ascii_of_list] <;> decide

/-- No two fields have the same key. -/
theorem keys_nodup : (parseOrder.map key).Nodup := by
  simp only [parseOrder, List.map_cons, List.map_nil, key]
  repeat rw [ascii_of_list]
  decide

theorem mem_parse_order (field : Field) : field ∈ parseOrder := by
  cases field with
  | number field => cases field <;> decide
  | text field => cases field <;> decide

/-- A field is found by its key. -/
theorem find_key (field : Field) :
    (parseOrder.find? fun other => key field = key other) = some field := by
  cases hfind : parseOrder.find? fun other => key field = key other with
  | none =>
      have hnone := List.find?_eq_none.1 hfind field (mem_parse_order field)
      simp at hnone
  | some other =>
      have hsame : key field = key other := by simpa using List.find?_some hfind
      rw [List.inj_on_of_nodup_map keys_nodup (mem_parse_order field)
        (List.mem_of_find?_eq_some hfind) hsame]

/-- A line with a short token for its value sets the field, unless the value is empty. -/
theorem parse_setting_line (hvalue : ShortToken value) :
    parseLine s (key field ++ equalsSign :: value ++ [newline]) =
      .ok (if value = [] then (s, 0) else (assign s value field, 1)) := by
  obtain ⟨hkey, hshort⟩ := key_short_token field
  have hsetting : strtok isSeparator (key field ++ equalsSign :: value ++ [newline]) =
      some (key field, value ++ [newline]) := by
    rw [List.append_assoc, List.cons_append]
    exact strtok_cons (key_ne_nil field) hkey (by decide)
  unfold parseLine
  rw [hsetting]
  by_cases hempty : value = []
  · subst hempty
    have hnone : strtok isSeparator ([] ++ [newline]) = none := 
      strtok_none (List.forall_mem_singleton.2 (by decide))
    simp only [hnone, if_true]
  · have htoken : strtok isSeparator (value ++ [newline]) = some (value, []) :=
      strtok_cons hempty hvalue.1 (by decide)
    simp only [htoken, if_neg hempty, List.take_of_length_le hshort,
      List.take_of_length_le hvalue.2, if_neg (key_not_comment field), find_key]

theorem assign_text_field (hvalue : value.length ≤ 63) (field : TextField) :
    assign s value (.text field) = s.setText field value := by
  have hsize : 63 ≤ textSize field - 1 := by cases field <;> decide
  rw [assign, List.take_of_length_le (hvalue.trans hsize)]

/-- An assignment changes no text field, or gives one the value. -/
theorem assign_text (hvalue : value.length ≤ 63) (field : Field) (text : TextField) :
    (assign s value field).text text = s.text text ∨ (assign s value field).text text = value := by
  cases field with
  | number field => exact .inl rfl
  | text field =>
      rw [assign_text_field hvalue, ConfigPrototype.setText]
      by_cases hsame : text = field
      · subst hsame
        exact .inr (Function.update_self ..)
      · exact .inl (Function.update_of_ne hsame ..)

/-- Whatever the line, a text field keeps its value or gets a short token that is not empty. -/
theorem parse_line_text {result : Nat} (h : parseLine s buf = .ok (t, result)) (field : TextField) :
    t.text field = s.text field ∨ ShortToken (t.text field) ∧ t.text field ≠ [] := by
  simp only [parseLine] at h
  cases hsetting : strtok isSeparator buf with
  | none => simp [hsetting] at h
  | some setting =>
      obtain ⟨setting, rest⟩ := setting
      cases hvalue : strtok isSeparator rest with
      | none =>
          simp only [hsetting, hvalue, Except.ok.injEq, Prod.mk.injEq] at h
          exact .inl (h.1 ▸ rfl)
      | some value =>
          obtain ⟨value, rest⟩ := value
          obtain ⟨hnonempty, hclean⟩ := strtok_token hvalue
          have hlength : (value.take 63).length ≤ 63 := List.length_take_le 63 value
          have htoken : ShortToken (value.take 63) ∧ value.take 63 ≠ [] :=
            ⟨⟨fun b hb => hclean b (List.mem_of_mem_take hb), hlength⟩, by simp [hnonempty]⟩
          simp only [hsetting, hvalue] at h
          split at h
          · cases h
            exact .inl rfl
          · split at h
            · next other _ =>
                cases h
                obtain hkept | hset := assign_text hlength other field
                · exact .inl hkept
                · refine .inr ?_
                  rw [hset]
                  exact htoken
            · cases h
              exact .inl rfl

/-! ## What a file sets -/

/-- Whatever the file, a text field ends with its initial value or with a short token that is not
empty. -/
theorem read_lines_reads_back {garbage : UInt8} {file : List UInt8} {result : ConfigPrototype × Bool}
    (h : readLines (setInitialConfig garbage) file = .ok result) (field : TextField) :
    ReadsBack field (result.1.text field) := by
  refine exec_invariant (fun state => ReadsBack field (state.1.text field)) ?_ ?_ h
  · exact initial_text_reads_back field
  · intro state buf next hstate hnext
    obtain ⟨⟨parsed, value⟩, hparse, rfl⟩ := of_map_ok hnext
    obtain hkept | htoken := parse_line_text hparse field
    · dsimp only
      rw [hkept]
      exact hstate
    · exact ⟨htoken.1, fun _ => htoken.2⟩

theorem printed_number_short_token (field : NumberField) :
    ShortToken (printed target (.number field)) ∧ printed target (.number field) ≠ [] := by
  have hlength := length_decimal_uint8 (target.number field)
  refine ⟨⟨fun c hc => ?_, Nat.le_trans hlength (by decide)⟩, ?_⟩
  · have hdigit := is_digit_of_mem_decimal hc
    simp only [isDigit, isSeparator, equalsSign, newline, decide_eq_true_eq,
      decide_eq_false_iff_not, UInt8.le_iff_toNat_le, ← UInt8.toNat_inj, UInt8.reduceToNat]
      at hdigit ⊢
    omega
  · exact List.length_pos_iff.1 (length_decimal_pos _)

theorem assign_printed_number (field : NumberField) :
    assign s (printed target (.number field)) (.number field) =
      s.setNumber field (target.number field) := by
  have hnumber := (target.number field).toNat_lt
  have hread : atoi (decimal (target.number field).toNat) = (target.number field).toNat :=
    atoi_decimal (by omega)
  have hvalue : UInt8.ofInt ((target.number field).toNat : Int) = target.number field := by
    rw [UInt8.ofInt, Int.emod_eq_of_lt (by omega) (by omega), Int.toNat_natCast,
      UInt8.ofNat_toNat]
  rw [assign, printed, hread, hvalue]

theorem printed_short_token (htexts : ∀ field, ShortToken (target.text field)) (field : Field) :
    ShortToken (printed target field) := by
  cases field with
  | number field => exact (printed_number_short_token field).1
  | text field => exact htexts field

/-- The fields in the list have the values of the target, the empty texts apart, and the other ones
those of before. -/
structure Restored (target : ConfigPrototype) (fields : List Field) (s t : ConfigPrototype) :
    Prop where
  number : ∀ field, t.number field =
    if .number field ∈ fields then target.number field else s.number field
  text : ∀ field, t.text field =
    if .text field ∈ fields ∧ target.text field ≠ [] then target.text field else s.text field

/-- The line of a field sets this field. -/
theorem read_setting_line (htexts : ∀ field, ShortToken (target.text field)) (field : Field)
    (state : ConfigPrototype × Bool) :
    (readLine state (settingLine target field ++ [newline])).Ensures fun next =>
      Restored target [field] state.1 next.1 := by
  have hprinted := printed_short_token htexts field
  rw [readLine, settingLine, parse_setting_line hprinted]
  refine ⟨_, rfl, ?_⟩
  cases field with
  | number field =>
      rw [if_neg (printed_number_short_token field).2, assign_printed_number]
      constructor
      · intro other
        by_cases hsame : other = field
        · subst hsame
          simp [ConfigPrototype.setNumber]
        · simp [ConfigPrototype.setNumber, hsame]
      · intro other
        simp [ConfigPrototype.setNumber]
  | text field =>
      rw [printed]
      by_cases hempty : target.text field = []
      · rw [if_pos hempty]
        constructor
        · simp
        · intro other
          by_cases hsame : other = field
          · subst hsame
            simp [hempty]
          · simp [hsame]
      · rw [if_neg hempty, assign_text_field (htexts field).2]
        constructor
        · simp [ConfigPrototype.setText]
        · intro other
          by_cases hsame : other = field
          · subst hsame
            simp [ConfigPrototype.setText, hempty]
          · simp [ConfigPrototype.setText, hsame]

theorem Restored.cons {first : Field} {fields : List Field} {u : ConfigPrototype}
    (hfirst : Restored target [first] s u) (hrest : Restored target fields u t) :
    Restored target (first :: fields) s t := by
  constructor
  · intro field
    rw [hrest.number, hfirst.number]
    by_cases hmem : Field.number field ∈ fields <;> simp [hmem]
  · intro field
    rw [hrest.text, hfirst.text]
    by_cases hmem : Field.text field ∈ fields <;> by_cases hempty : target.text field = [] <;>
      simp [hmem, hempty]

/-- The lines of some fields set these fields. -/
theorem exec_setting_lines (htexts : ∀ field, ShortToken (target.text field)) (fields : List Field)
    (state : ConfigPrototype × Bool) :
    (exec readLine state ((fields.map (settingLine target)).map (· ++ [newline]))).Ensures
      fun result => Restored target fields state.1 result.1 := by
  induction fields generalizing state with
  | nil => exact ⟨state, rfl, by simp, by simp⟩
  | cons first fields ih =>
      obtain ⟨next, hfirst, hnext⟩ := read_setting_line htexts first state
      obtain ⟨result, hrest, hresult⟩ := ih next
      refine ⟨result, ?_, hnext.cons hresult⟩
      simp only [List.map_cons, exec, hfirst]
      exact hrest

/-- The lines of the file are those that were written. -/
theorem file_lines (htexts : ∀ field, ShortToken (target.text field)) :
    fgetsLines 1023 [] (writeSettingsToStorage target) =
      headerLines.map (· ++ [newline]) ++
        (writeOrder.map (settingLine target)).map (· ++ [newline]) := by
  rw [writeSettingsToStorage, fgets_lines_flat_map, List.map_append]
  intro line hline
  obtain hheader | hsetting := List.mem_append.1 hline
  · have hlines : ∀ line ∈ headerLines, newline ∉ line ∧ line.length < 1023 := by decide
    exact ⟨fun b hb heq => (hlines line hheader).1 (heq ▸ hb), (hlines line hheader).2⟩
  · obtain ⟨field, -, rfl⟩ := List.mem_map.1 hsetting
    obtain ⟨hkey, hkeyLength⟩ := key_short_token field
    obtain ⟨hvalue, hvalueLength⟩ := printed_short_token htexts field
    constructor
    · intro b hb hnewline
      subst hnewline
      simp only [settingLine, List.mem_append, List.mem_cons] at hb
      obtain hb | hb | hb := hb
      · exact absurd (hkey _ hb) (by decide)
      · exact absurd hb (by decide)
      · exact absurd (hvalue _ hb) (by decide)
    · simp only [settingLine, List.length_append, List.length_cons]
      omega

/-- Short tokens come back, the empty ones apart. -/
theorem read_lines_restores (htexts : ∀ field, ShortToken (target.text field)) (garbage : UInt8) :
    (readLines (setInitialConfig garbage) (writeSettingsToStorage target)).Ensures fun result =>
      Restored target writeOrder (setInitialConfig garbage) result.1 := by
  rw [readLines, file_lines htexts]
  exact exec_setting_lines htexts writeOrder (setInitialConfig garbage, true)

/-- Every field is written. -/
theorem mem_write_order (field : Field) : field ∈ writeOrder := by
  cases field with
  | number field => cases field <;> decide
  | text field => cases field <;> decide

/-- For all settings, they come back if and only if each of their texts does. -/
theorem survives_restart_iff (garbage : UInt8) (s : ConfigPrototype) :
    SurvivesRestart garbage s ↔ ∀ field, ReadsBack field (s.text field) := by
  constructor
  · rintro ⟨result, hresult, -, htexts⟩ field
    rw [← htexts field]
    exact read_lines_reads_back hresult field
  · intro htexts
    obtain ⟨result, hresult, hrestored⟩ :=
      read_lines_restores (fun field => (htexts field).1) garbage
    refine ⟨result, hresult, fun field => ?_, fun field => ?_⟩
    · rw [hrestored.number, if_pos (mem_write_order _)]
    · rw [hrestored.text]
      by_cases hempty : s.text field = []
      · rw [if_neg (by simp [hempty]), hempty]
        by_contra hinitial
        exact (htexts field).2 hinitial hempty
      · rw [if_pos ⟨mem_write_order _, hempty⟩]

/-! ## The settings that can be reached -/

/-- For all settings that the setters reach, they come back after a restart if and only if the
two names are not empty and all texts that can be set have at most 63 bytes and no separator. -/
theorem settings_survive_iff {garbage : UInt8} {setters : List Setter} {s : ConfigPrototype}
    (h : Run set Anything (setInitialConfig garbage) setters s) (later : UInt8) :
    SurvivesRestart later s ↔
      s.text .userName ≠ [] ∧ s.text .modemName ≠ [] ∧
        ∀ field ∈ settableTexts, ShortToken (s.text field) := by
  rw [survives_restart_iff]
  constructor
  · intro hall
    exact ⟨(hall .userName).2 (by decide), (hall .modemName).2 (by decide),
      fun field _ => (hall field).1⟩
  · rintro ⟨huser, hmodem, htexts⟩ field
    by_cases hsettable : field ∈ settableTexts
    · refine ⟨htexts field hsettable, ?_⟩
      cases field with
      | userName => exact fun _ => huser
      | modemName => exact fun _ => hmodem
      | imsApnAddr => exact absurd hsettable (by decide)
      | _ => exact fun hinitial => absurd rfl hinitial
    · rw [ims_texts_of_run h hsettable]
      exact initial_text_reads_back field

/-- The user is named Ada, and the settings survive. -/
theorem named_settings_survive :
    ∃ s, Run set Anything (setInitialConfig 0) [.userName ⟨ascii "Ada", by decide⟩] s ∧
      SurvivesRestart 0 s := by
  have hrun : Run set Anything (setInitialConfig 0) [.userName ⟨ascii "Ada", by decide⟩]
      (setUserName (setInitialConfig 0) ⟨ascii "Ada", by decide⟩) := .snoc (.nil _) trivial rfl
  exact ⟨_, hrun, (settings_survive_iff hrun 0).2 ⟨by decide, by decide, by decide⟩⟩

/-- A password with an equals sign is cut there. -/
theorem password_cut :
    ¬ ∀ (garbage later : UInt8) (setters : List Setter) (s : ConfigPrototype),
      Run set Anything (setInitialConfig garbage) setters s → SurvivesRestart later s := by
  intro hall
  have hsurvives := hall 0 0 [.internalNetworkPass ⟨ascii "pa=ss", by decide⟩] _
    (.snoc (.nil _) trivial rfl)
  rw [survives_restart_iff] at hsurvives
  have htoken := (hsurvives .apnPassword).1.1 equalsSign (by decide)
  exact absurd htoken (by decide)

end OpenQti.Config
