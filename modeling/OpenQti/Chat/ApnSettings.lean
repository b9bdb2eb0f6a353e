import OpenQti.Chat.Replies

/-!
# The settings of the internal network

Three commands set the APN name, the user name and the password of the internal network. Each cuts
its argument to 127 bytes and hands it to a setter. `cmd_configure_apn_password` hands it to the
setter of the user name. `apn_settings_independent_iff` says when this cannot be noticed.

The messages that answer the commands are in `OpenQti.Chat.Replies`.
-/

namespace OpenQti.Chat

open Config Text

/-! ## The commands -/

/-- A setter of one of the three texts. -/
abbrev NetworkSetter := ConfigPrototype → CText → Except ConfigFault ConfigPrototype

/-- What `snprintf(apn, 128, "%s", text)` writes. -/
def cutText (text : CText) : CText where
  bytes := text.bytes.take 127
  noTerminator h := text.noTerminator (List.mem_of_mem_take h)

/-- The text behind the first `n` bytes. -/
def textFrom (n : Nat) (text : CText) : CText where
  bytes := text.bytes.drop n
  noTerminator h := text.noTerminator (List.mem_of_mem_drop h)

/-- What the three commands share: the text behind the command, if there is one, is set. -/
def configureNetworkText (id : CommandId) (setter : NetworkSetter) (s : ConfigPrototype)
    (command : CText) : Except ConfigFault ConfigPrototype :=
  match strstr (cmdOf id) command.bytes with
  | none => .ok s
  | some offset =>
      let ofs := offset + (cmdOf id).length
      if command.bytes.length > ofs then setter s (cutText (textFrom ofs command)) else .ok s

/-- `cmd_configure_new_apn(command)`. -/
def configureNewApn : NetworkSetter :=
  configureNetworkText .actionInternalNetworkSetApn setInternalNetworkApnName

/-- `cmd_configure_apn_username(command)`. -/
def configureApnUsername : NetworkSetter :=
  configureNetworkText .actionInternalNetworkSetUser setInternalNetworkUsername

/-- `cmd_configure_apn_password(command)`. The setter is that of the user name. -/
def configureApnPassword : NetworkSetter :=
  configureNetworkText .actionInternalNetworkSetPass setInternalNetworkUsername

/-- An argument of 1 to 127 bytes. -/
structure NetworkText extends CText where
  nonempty : 0 < bytes.length
  fits : bytes.length ≤ 127

/-- No word of the table has a terminator in it. -/
theorem command_zero_free : ∀ entry ∈ botCommands, 0 ∉ ascii entry.cmd := by
  simp only [botCommands, List.forall_mem_cons, List.not_mem_nil, false_implies, implies_true,
    and_true]
  repeat' apply And.intro
  all_goals
    rw [ascii_of_list]
    decide

theorem zero_not_mem_cmd_of (id : CommandId) : 0 ∉ cmdOf id := by
  rw [cmdOf, botCommand, List.getD_eq_getElem?_getD]
  cases hentry : botCommands[id.ctorIdx]? with
  | none => exact List.not_mem_nil
  | some entry => exact command_zero_free entry (List.mem_of_getElem? hentry)

/-- The command with an argument. -/
def commandWith (id : CommandId) (text : NetworkText) : CText where
  bytes := cmdOf id ++ text.bytes
  noTerminator h := (List.mem_append.1 h).elim (zero_not_mem_cmd_of id) text.noTerminator

/-! ## The property -/

/-- `set internal network apn X`. -/
def setApn (s : ConfigPrototype) (apn : NetworkText) : Except ConfigFault ConfigPrototype :=
  configureNewApn s (commandWith .actionInternalNetworkSetApn apn)

/-- `set internal network user X`. -/
def setUser (s : ConfigPrototype) (user : NetworkText) : Except ConfigFault ConfigPrototype :=
  configureApnUsername s (commandWith .actionInternalNetworkSetUser user)

/-- `set internal network pass X`. -/
def setPass (s : ConfigPrototype) (pass : NetworkText) : Except ConfigFault ConfigPrototype :=
  configureApnPassword s (commandWith .actionInternalNetworkSetPass pass)

/-- Each command sets its own text and nothing else, and the order of two commands makes no
difference. -/
structure ApnSettingsIndependent (s : ConfigPrototype) (apn user pass : NetworkText) : Prop where
  apnOnly : setApn s apn = .ok (s.setText .apnAddr apn.bytes)
  userOnly : setUser s user = .ok (s.setText .apnUsername user.bytes)
  passOnly : setPass s pass = .ok (s.setText .apnPassword pass.bytes)
  apnUser : (setApn s apn >>= (setUser · user)) = (setUser s user >>= (setApn · apn))
  apnPass : (setApn s apn >>= (setPass · pass)) = (setPass s pass >>= (setApn · apn))
  userPass : (setUser s user >>= (setPass · pass)) = (setPass s pass >>= (setUser · user))

/-! ## The texts that are set -/

variable {s : ConfigPrototype} {field other : TextField}

/-- A command with its argument: the setter gets the argument. -/
theorem configure_network_text_command_with {setter : NetworkSetter}
    (hsetter : ∀ s, setter s = setApnField s field) (id : CommandId) (text : NetworkText) :
    configureNetworkText id setter s (commandWith id text) =
      .ok (s.setText field text.bytes) := by
  have hlonger : (cmdOf id ++ text.bytes).length > 0 + (cmdOf id).length := by
    have hnonempty := text.nonempty
    rw [List.length_append]
    omega
  have harg : (cmdOf id ++ text.bytes).drop (0 + (cmdOf id).length) = text.bytes := by
    rw [Nat.zero_add, List.drop_left]
  have hcut : text.bytes.take 127 = text.bytes := List.take_of_length_le text.fits
  have hstored : text.bytes.take (maxApnFieldSz - 1) = text.bytes := hcut
  have hfits : ¬ text.bytes.length = maxApnFieldSz := by
    have := text.fits
    unfold maxApnFieldSz
    omega
  simp only [configureNetworkText, commandWith, strstr_append, if_pos hlonger, hsetter,
    setApnField, cutText, textFrom, harg, hcut, if_neg hfits, hstored]

@[simp]
theorem set_apn_eq (apn : NetworkText) : setApn s apn = .ok (s.setText .apnAddr apn.bytes) := by
  unfold setApn configureNewApn
  exact configure_network_text_command_with (fun _ => rfl) _ apn

@[simp]
theorem set_user_eq (user : NetworkText) :
    setUser s user = .ok (s.setText .apnUsername user.bytes) := by
  unfold setUser configureApnUsername
  exact configure_network_text_command_with (fun _ => rfl) _ user

@[simp]
theorem set_pass_eq (pass : NetworkText) :
    setPass s pass = .ok (s.setText .apnUsername pass.bytes) := by
  unfold setPass configureApnPassword
  exact configure_network_text_command_with (fun _ => rfl) _ pass

/-- Two texts of different fields can be set in either order. -/
theorem set_text_comm (hfields : field ≠ other) (value text : List UInt8) :
    (s.setText field value).setText other text = (s.setText other text).setText field value := by
  simp only [ConfigPrototype.setText, Function.update_comm hfields.symm]

theorem set_text_self (field : TextField) (value text : List UInt8) :
    (s.setText field value).setText field text = s.setText field text := by
  simp only [ConfigPrototype.setText, Function.update_idem]

/-- One field is set instead of another: this shows, unless both hold the text already. -/
theorem set_text_eq_iff (hfields : field ≠ other) (value : List UInt8) :
    s.setText field value = s.setText other value ↔
      s.text field = value ∧ s.text other = value := by
  constructor
  · intro h
    have htext := congrArg ConfigPrototype.text h
    have hfield := congrFun htext field
    have hother := congrFun htext other
    simp only [ConfigPrototype.setText, Function.update_self, Function.update_of_ne hfields,
      Function.update_of_ne hfields.symm] at hfield hother
    exact ⟨hfield.symm, hother⟩
  · rintro ⟨hfield, hother⟩
    have hself : Function.update s.text field value = s.text := by
      rw [← hfield, Function.update_eq_self]
    have hsame : Function.update s.text other value = s.text := by
      rw [← hother, Function.update_eq_self]
    simp only [ConfigPrototype.setText, hself, hsame]

/-- For all settings and all arguments of 1 to 127 bytes, the three commands set their own texts and
can be given in any order if and only if the new password is the user name and the password already,
and the new user name too. -/
theorem apn_settings_independent_iff (s : ConfigPrototype) (apn user pass : NetworkText) :
    ApnSettingsIndependent s apn user pass ↔
      s.text .apnUsername = pass.bytes ∧ s.text .apnPassword = pass.bytes ∧
        user.bytes = pass.bytes := by
  have hpass : setPass s pass = .ok (s.setText .apnPassword pass.bytes) ↔
      s.text .apnUsername = pass.bytes ∧ s.text .apnPassword = pass.bytes := by
    rw [set_pass_eq, Except.ok.injEq, set_text_eq_iff (by decide)]
  have horder : (setUser s user >>= (setPass · pass)) = (setPass s pass >>= (setUser · user)) ↔
      user.bytes = pass.bytes := by
    simp only [set_user_eq, set_pass_eq, bind, Except.bind, Except.ok.injEq, set_text_self]
    constructor
    · intro h
      have hname := congrFun (congrArg ConfigPrototype.text h) .apnUsername
      simp only [ConfigPrototype.setText, Function.update_self] at hname
      exact hname.symm
    · intro h
      rw [h]
  constructor
  · intro h
    obtain ⟨hname, hpassword⟩ := hpass.1 h.passOnly
    exact ⟨hname, hpassword, horder.1 h.userPass⟩
  · rintro ⟨hname, hpassword, huser⟩
    refine ⟨set_apn_eq apn, set_user_eq user, hpass.2 ⟨hname, hpassword⟩, ?_, ?_, horder.2 huser⟩
    · simp only [set_apn_eq, set_user_eq, bind, Except.bind]
      rw [set_text_comm (by decide)]
    · simp only [set_apn_eq, set_pass_eq, bind, Except.bind]
      rw [set_text_comm (by decide)]

/-- A new password becomes the user name. -/
theorem password_set_as_username :
    ¬ ∀ (s : ConfigPrototype) (apn user pass : NetworkText),
      ApnSettingsIndependent s apn user pass := by
  intro h
  let secret : NetworkText := ⟨⟨ascii "secret", by decide⟩, by decide, by decide⟩
  have hpass := (h (setInitialConfig 0) secret secret secret).passOnly
  rw [set_pass_eq, Except.ok.injEq, set_text_eq_iff (by decide)] at hpass
  exact absurd hpass.2 (by decide)

end OpenQti.Chat
