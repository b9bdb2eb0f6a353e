import OpenQti.Chat.Schedule

/-!
# How long the replies are

For each helper of the chat, whether the texts it hands over fit into a message. Those with numbers
and fixed texts always do. The ones that can be too long have a lemma that says exactly when they
are not: `user_name` and `modem_name` may have 127 bytes, and some replies repeat a part of the
command or of a file.
-/

namespace OpenQti.Chat

open Config Text

/-- All texts fit into a message. -/
def AllFit (replies : List Reply) : Prop := ∀ reply ∈ replies, reply.length ≤ Sms.maxMessageSize

theorem all_fit_nil : AllFit [] := by
  intro reply hreply
  simp at hreply

theorem all_fit_cons {reply : Reply} {replies : List Reply} :
    AllFit (reply :: replies) ↔ reply.length ≤ Sms.maxMessageSize ∧ AllFit replies := by
  simp [AllFit]

theorem all_fit_append {first second : List Reply} :
    AllFit (first ++ second) ↔ AllFit first ∧ AllFit second := by
  simp only [AllFit, List.mem_append, or_imp, forall_and]

theorem all_fit_singleton {reply : Reply} : AllFit [reply] ↔ reply.length ≤ Sms.maxMessageSize := by
  simp [AllFit]

variable (env : ChatEnv) (command : List UInt8)

theorem user_name_length_le : env.userName.length ≤ 127 := Nat.le_of_lt_succ (env.textsFit .userName)

theorem modem_name_length_le : env.modemName.length ≤ 127 :=
  Nat.le_of_lt_succ (env.textsFit .modemName)

/-! ## Fixed answers -/

theorem length_set_message_response (id : CommandId) : (setMessageResponse id).length ≤ 101 := by
  refine length_sprintf_le 100 ?_ rfl (by decide)
  simp [cmd_text_length_le]

theorem set_message_response_fits (id : CommandId) : AllFit [setMessageResponse id] :=
  all_fit_singleton.2 ((length_set_message_response id).trans (by decide))

theorem set_cb_broadcast_fits (en : Bool) : AllFit (cmdSetCbBroadcast env en) := by
  unfold cmdSetCbBroadcast
  split_ifs <;> exact all_fit_singleton.2 (length_sprintf_nil_le rfl (by decide))

theorem ifup_down_fits (start : Bool) : AllFit (wdsChatIfupDown env start) := by
  unfold wdsChatIfupDown
  split_ifs <;> exact all_fit_singleton.2 (length_sprintf_nil_le rfl (by decide))

theorem clear_auth_fits : AllFit cmdClearInternalNetworkingAuth :=
  all_fit_singleton.2 (length_sprintf_nil_le rfl (by decide))

theorem length_storage_warning : (storageWarning env).length ≤ 48 := by
  unfold storageWarning
  split
  · exact length_sprintf_nil_le rfl (by decide)
  · exact Nat.zero_le _

set_option maxRecDepth 1000 in
theorem record_calls_fits (id : CommandId) : AllFit (recordCallsReplies env id) := by
  have hresponse := length_set_message_response id
  have hwarning := length_storage_warning env
  refine all_fit_cons.2 ⟨?_, all_fit_singleton.2
    (length_sprintf_nil_le (by decide +kernel) (by decide +kernel))⟩
  rw [List.length_append, Sms.maxMessageSize]
  omega

theorem record_current_call_fits : AllFit (recordCurrentCallReplies env) := by
  unfold recordCurrentCallReplies
  split
  · have hresponse := length_set_message_response .actionRecordCallCurrent
    have hwarning := length_storage_warning env
    rw [setMessageResponse] at hresponse
    rw [all_fit_singleton, List.length_append, Sms.maxMessageSize]
    omega
  · exact all_fit_singleton.2 (length_sprintf_nil_le rfl (by decide))

/-! ## Answers with numbers -/

theorem usb_suspend_fits : AllFit (usbSuspendReplies env) := by
  refine all_fit_singleton.2 (length_sprintf_le 11 ?_ rfl (by decide))
  simp [length_signed_int32]

theorem reconnects_fits : AllFit (reconnectsReplies env) := by
  have hreconnects := length_decimal_uint8 env.dirtyReconnects
  refine all_fit_singleton.2 (length_sprintf_le 70 ?_ rfl (by decide))
  simp only [List.forall_mem_cons, List.not_mem_nil, false_implies, implies_true, and_true]
  exact ⟨(length_ascii _).trans_le (by decide), by omega⟩

theorem length_counter (n : UInt32) : (counter n).length ≤ 11 := length_signed_int32 _

theorem rmnet_stats_fits : AllFit (cmdGetRmnetStats env) := by
  refine all_fit_singleton.2 (length_sprintf_le 11 ?_ rfl (by decide))
  simp [length_counter]

theorem gps_stats_fits : AllFit (cmdGetGpsStats env) := by
  refine all_fit_singleton.2 (length_sprintf_le 11 ?_ rfl (by decide))
  simp [length_counter]

theorem memory_fits : AllFit (cmdGetMemory env) := by
  have hprocs := length_decimal_uint16 env.sysinfo.procs
  refine all_fit_singleton.2 (length_sprintf_le 10 ?_ rfl (by decide))
  simp only [List.forall_mem_cons, List.not_mem_nil, false_implies, implies_true, and_true]
  exact ⟨length_decimal_uint32 _, length_decimal_uint32 _, length_decimal_uint32 _,
    length_decimal_uint32 _, by omega⟩

theorem length_network_type (n : Nat) : (ascii (networkTypes.getD n "")).length ≤ 7 := by
  have htypes : ∀ name ∈ networkTypes, (ascii name).length ≤ 7 := by decide +kernel
  by_cases hplace : n < networkTypes.length
  · rw [List.getD_eq_getElem _ _ hplace]
    exact htypes _ (List.getElem_mem hplace)
  · rw [List.getD_eq_default _ _ (Nat.le_of_not_lt hplace)]
    decide

theorem gsm_signal_fits : AllFit (cmdRenderGsmSignalData env) := by
  have htitle : (sprintf "Network type: " []).length ≤ 14 := length_sprintf_nil_le rfl (by decide)
  have hstrength : (sprintf "Signal strength: -%i dBm\n"
      [decimal env.signalStrength.toNat]).length ≤ 26 := by
    refine length_sprintf_le 3 ?_ rfl (by decide)
    simp [length_decimal_uint8]
  have hnetwork : (if env.networkType ≤ 8 then
      sprintf "%s\n" [ascii (networkTypes.getD env.networkType.toNat "")]
      else sprintf "Unknown (0x%.2x)\n"
        [padded 2 48 (hexadecimal env.networkType.toNat)]).length ≤ 15 := by
    split
    · refine length_sprintf_le 7 ?_ rfl (by decide)
      exact List.forall_mem_singleton.2 (length_network_type _)
    · have htype := env.networkType.toNat_lt
      refine length_sprintf_le 2 ?_ rfl (by decide)
      simp only [List.forall_mem_singleton, length_padded, Nat.max_le, le_refl, true_and]
      exact length_hexadecimal_le (by decide) (by omega)
  rw [cmdRenderGsmSignalData, all_fit_singleton, List.length_append, List.length_append,
    Sms.maxMessageSize]
  omega

/-- A report that has been retrieved is always too long. -/
theorem signal_report_too_long (report : NasReport) : 160 < (signalReport report).length := by
  have hcodes : 12 ≤ (sprintf "MCC: %i MNC: %i\n"
      [decimal report.mcc.toNat, decimal report.mnc.toNat]).length :=
    le_length_sprintf rfl (Nat.le_add_right 12 _)
  have hcell : 15 ≤ (sprintf "Cell: %.8x\n"
      [padded 8 48 (hexadecimal report.cellId.toNat)]).length := by
    refine le_length_sprintf rfl (show 15 ≤ 7 + ((padded 8 48 _).length + 0) from ?_)
    rw [length_padded]
    omega
  have harea : 25 ≤ (sprintf "Location Area Code: %.4x\n"
      [padded 4 48 (hexadecimal report.lac.toNat)]).length := by
    refine le_length_sprintf rfl (show 25 ≤ 21 + ((padded 4 48 _).length + 0) from ?_)
    rw [length_padded]
    omega
  have hchannel : 11 ≤ (sprintf "(E/)ARFCN %u\n" [decimal report.arfcn.toNat]).length :=
    le_length_sprintf rfl (Nat.le_add_right 11 _)
  have hmin : 21 ≤ (sprintf "SRX Level (min) %i dBm\n" [signed report.srxLevelMin.toInt]).length :=
    le_length_sprintf rfl (Nat.le_add_right 21 _)
  have hmax : 21 ≤ (sprintf "SRX Level (max) %i dBm\n" [signed report.srxLevelMax.toInt]).length :=
    le_length_sprintf rfl (Nat.le_add_right 21 _)
  have hrxMin : 16 ≤ (sprintf "RX Level (min) %u\n" [decimal report.rxLevelMin.toNat]).length :=
    le_length_sprintf rfl (Nat.le_add_right 16 _)
  have hrxMax : 16 ≤ (sprintf "RX Level (max) %u\n" [decimal report.rxLevelMax.toNat]).length :=
    le_length_sprintf rfl (Nat.le_add_right 16 _)
  have hcode : 16 ≤ (sprintf "PSC (umts) %.4x\n"
      [padded 4 48 (hexadecimal report.psc.toNat)]).length := by
    refine le_length_sprintf rfl (show 16 ≤ 12 + ((padded 4 48 _).length + 0) from ?_)
    rw [length_padded]
    omega
  have hverified : 10 ≤ (sprintf "Verified? %s"
      [if report.opencellidVerified = 1 then ascii "Yes" else ascii "No"]).length :=
    le_length_sprintf rfl (Nat.le_add_right 10 _)
  simp only [signalReport, List.length_append]
  omega

theorem dump_signal_report_fits_iff :
    AllFit (cmdDumpSignalReport env) ↔ env.cellReport.mcc = 0 := by
  unfold cmdDumpSignalReport
  by_cases hnone : env.cellReport.mcc = 0
  · rw [if_pos hnone]
    exact iff_of_true (all_fit_singleton.2 (length_sprintf_nil_le rfl (by decide))) hnone
  · rw [if_neg hnone]
    refine iff_of_false ?_ hnone
    rw [all_fit_singleton]
    exact Nat.not_le.2 (signal_report_too_long env.cellReport)

/-! ## Answers with names -/

theorem name_fits : AllFit (nameReplies env) := by
  have htext : (cmdTextOf .getName).length = 11 := length_ascii _
  have hlength : (sprintf "%s %s\n" [cmdTextOf .getName, env.modemName]).length =
      2 + ((cmdTextOf .getName).length + (env.modemName.length + 0)) := length_sprintf _ _ rfl
  have hname := modem_name_length_le env
  rw [nameReplies, all_fit_singleton, hlength, Sms.maxMessageSize]
  omega

theorem owner_name_fits : AllFit (ownerNameReplies env) := by
  have htext : (cmdTextOf .getOwnerName).length = 13 := length_ascii _
  have hlength : (sprintf "%s %s\n" [cmdTextOf .getOwnerName, env.userName]).length =
      2 + ((cmdTextOf .getOwnerName).length + (env.userName.length + 0)) := length_sprintf _ _ rfl
  have hname := user_name_length_le env
  rw [ownerNameReplies, all_fit_singleton, hlength, Sms.maxMessageSize]
  omega

/-- The length of the days in the answer to `uptime`. -/
def daysLength (updays : Nat) : Nat :=
  if updays = 0 then 0 else 6 + (decimal updays).length + (if updays = 1 then 0 else 1)

/-- The length of the hours and minutes in the answer to `uptime`. -/
def hoursLength (uphours upminutes : Nat) : Nat :=
  if uphours = 0 then 4 + (decimal upminutes).length else 5

theorem length_two_digits {n : Nat} (h : n < 100) (fill : UInt8) :
    (padded 2 fill (decimal n)).length = 2 := by
  have hdecimal : (decimal n).length ≤ 2 := length_decimal_le (by decide) (by omega)
  rw [length_padded]
  omega

theorem length_days (updays : Nat) :
    (if updays ≠ 0 then
      sprintf "%u day%s, " [decimal updays, if updays ≠ 1 then ascii "s" else ascii ""]
      else []).length = daysLength updays := by
  unfold daysLength
  by_cases hzero : updays = 0
  · rw [if_neg (by simp [hzero]), if_pos hzero]
    rfl
  · have hlength : (sprintf "%u day%s, "
        [decimal updays, if updays ≠ 1 then ascii "s" else ascii ""]).length =
          6 + ((decimal updays).length +
            ((if updays ≠ 1 then ascii "s" else ascii "").length + 0)) := length_sprintf _ _ rfl
    have hplural : (if updays ≠ 1 then ascii "s" else ascii "").length =
        if updays = 1 then 0 else 1 := by
      by_cases hone : updays = 1
      · rw [if_neg (by simp [hone]), if_pos hone]
        rfl
      · rw [if_pos hone, if_neg hone]
        rfl
    rw [if_pos hzero, if_neg hzero, hlength, hplural]
    omega

theorem length_hours {uphours upminutes : Nat} (hhours : uphours < 24) (hminutes : upminutes < 60) :
    (if uphours ≠ 0 then
      sprintf "%2u:%02u" [padded 2 32 (decimal uphours), padded 2 48 (decimal upminutes)]
      else sprintf "%u min" [decimal upminutes]).length = hoursLength uphours upminutes := by
  unfold hoursLength
  by_cases hzero : uphours = 0
  · rw [if_neg (by simp [hzero]), if_pos hzero]
    exact length_sprintf _ _ rfl
  · have hlength : (sprintf "%2u:%02u"
        [padded 2 32 (decimal uphours), padded 2 48 (decimal upminutes)]).length =
          1 + ((padded 2 32 (decimal uphours)).length +
            ((padded 2 48 (decimal upminutes)).length + 0)) := length_sprintf _ _ rfl
    rw [if_pos hzero, if_neg hzero, hlength, length_two_digits (by omega),
      length_two_digits (by omega)]

theorem uptime_fits_iff :
    AllFit (cmdGetUptime env) ↔
      env.userName.length + daysLength (env.sysinfo.uptime.toNat / 86400) +
        hoursLength (env.sysinfo.uptime.toNat / 60 / 60 % 24)
          (env.sysinfo.uptime.toNat / 60 % 60) ≤ 123 := by
  have htext : (cmdTextOf .getUptime).length = 18 := length_ascii _
  have hgreeting : (sprintf "Hi %s, %s:\n" [env.userName, cmdTextOf .getUptime]).length =
      7 + (env.userName.length + ((cmdTextOf .getUptime).length + 0)) := length_sprintf _ _ rfl
  have htime : (sprintf "%02u:%02u:%02u up " [padded 2 48 (decimal env.hour),
      padded 2 48 (decimal env.minute), padded 2 48 (decimal env.second)]).length =
        6 + ((padded 2 48 (decimal env.hour)).length + ((padded 2 48 (decimal env.minute)).length +
          ((padded 2 48 (decimal env.second)).length + 0))) := length_sprintf _ _ rfl
  rw [length_two_digits (by omega), length_two_digits (by omega), length_two_digits (by omega)]
    at htime
  simp only [cmdGetUptime, all_fit_singleton, List.length_append, length_days,
    length_hours (Nat.mod_lt _ (by decide)) (Nat.mod_lt _ (by decide)), hgreeting, htime, htext,
    Sms.maxMessageSize]
  omega

theorem load_avg_fits_iff :
    AllFit (cmdGetLoadAvg env) ↔
      ∀ output, env.loadAvg = some output → env.userName.length + output.length ≤ 139 := by
  unfold cmdGetLoadAvg
  cases env.loadAvg with
  | none => exact iff_of_true all_fit_nil (by simp)
  | some output =>
      have htext : (cmdTextOf .getLoadavg).length = 12 := length_ascii _
      have hlength : (sprintf "Hi %s, %s:\n %s\n"
          [env.userName, cmdTextOf .getLoadavg, output]).length =
            9 + (env.userName.length + ((cmdTextOf .getLoadavg).length + (output.length + 0))) :=
        length_sprintf _ _ rfl
      simp only [all_fit_singleton, hlength, htext, Sms.maxMessageSize, Option.some.injEq,
        forall_eq']
      omega

theorem sw_version_fits : AllFit (cmdGetSwVersion env) := by
  rw [cmdGetSwVersion, all_fit_singleton]
  exact (List.length_take_le 159 _).trans (by decide)

theorem length_yes_no (yes : Bool) : (yesNo yes).length ≤ 3 := by
  cases yes <;> decide

theorem length_on_off (on : Bool) : (onOff on).length ≤ 3 := by
  cases on <;> decide

set_option maxRecDepth 1000 in
theorem user_config_fits : (userConfig env).length ≤ Sms.maxMessageSize := by
  have hbehaviour : (if env.isOn .callwaitAutohangup then ascii "Ignore"
      else ascii "Reject").length ≤ 6 := by
    split <;> decide
  refine length_sprintf_le 6 ?_ rfl (by decide)
  simp only [List.forall_mem_cons, List.not_mem_nil, false_implies, implies_true, and_true]
  exact ⟨(length_yes_no _).trans (by decide), hbehaviour, (length_yes_no _).trans (by decide),
    (length_yes_no _).trans (by decide), (length_yes_no _).trans (by decide)⟩

set_option maxRecDepth 1000 in
theorem tracking_config_fits : (trackingConfig env).length ≤ Sms.maxMessageSize := by
  have hlength : (trackingConfig env).length =
      124 + ((onOff (env.isOn .signalTracking)).length + ((signalTrackingModeText env).length +
        ((yesNo (env.isOn .signalTrackingNotifyDowngrade)).length +
          ((cellChangeNotificationModeText env).length +
            ((yesNo (env.isOn .dumpNetworkTables)).length + 0))))) := length_sprintf _ _ rfl
  have hmode : (signalTrackingModeText env).length ≤ 17 := by
    unfold signalTrackingModeText
    split_ifs <;> decide
  have hnotification : (cellChangeNotificationModeText env).length ≤ 9 := by
    unfold cellChangeNotificationModeText
    split_ifs <;> decide
  have hstatus := length_on_off (env.isOn .signalTracking)
  have hdowngrade := length_yes_no (env.isOn .signalTrackingNotifyDowngrade)
  have hdump := length_yes_no (env.isOn .dumpNetworkTables)
  rw [hlength, Sms.maxMessageSize]
  omega

theorem running_config_fits_iff :
    AllFit (cmdGetRunningConfig env) ↔
      env.modemName.length + env.userName.length + (onOff (env.isOn .persistentLogging)).length +
          (onOff env.adbEnabled).length + (if env.usbAudio then 3 else 8) ≤ 88 ∧
        (onOff (env.isOn .allowInternalModemConnectivity)).length +
          (env.config.text .apnAddr).length + (env.config.text .apnUsername).length +
          2 * (env.config.text .apnPassword).length ≤ 94 := by
  have hsystem : (systemConfig env).length =
      72 + (env.modemName.length + (env.userName.length +
        ((onOff (env.isOn .persistentLogging)).length + ((onOff env.adbEnabled).length +
          ((if env.usbAudio then ascii "USB" else ascii "Internal").length + 0))))) :=
    length_sprintf _ _ rfl
  have haudio : (if env.usbAudio then ascii "USB" else ascii "Internal").length =
      if env.usbAudio then 3 else 8 := by
    split <;> rfl
  have hnetwork : (networkConfig env).length =
      66 + ((onOff (env.isOn .allowInternalModemConnectivity)).length +
        ((env.config.text .apnAddr).length + ((env.config.text .apnUsername).length +
          ((env.config.text .apnPassword).length + ((env.config.text .apnPassword).length + 0))))) :=
    length_sprintf _ _ rfl
  simp only [cmdGetRunningConfig, all_fit_cons, all_fit_nil, user_config_fits,
    tracking_config_fits, and_true, true_and]
  rw [hsystem, haudio, hnetwork, Sms.maxMessageSize]
  omega

/-! ## Answers in pieces -/

theorem pieces_fit {size : Nat} (hsize : size ≤ Sms.maxMessageSize) (text : List UInt8) :
    AllFit (pieces size text) := by
  fun_induction pieces size text with
  | case1 text hend => exact all_fit_nil
  | case2 text hmore ih => exact all_fit_cons.2 ⟨(List.length_take_le size text).trans hsize, ih⟩

theorem help_fits : AllFit cmdGetHelp := pieces_fit (by decide) fullHelpMsg

theorem openqti_log_fits : AllFit (cmdGetOpenqtiLog env) := by
  unfold cmdGetOpenqtiLog
  cases env.openqtiLog with
  | none => exact all_fit_nil
  | some file =>
      exact all_fit_cons.2 ⟨length_sprintf_nil_le rfl (by decide), pieces_fit (by decide) file⟩

theorem kernel_log_fits : AllFit (cmdGetKernelLog env) := by
  unfold cmdGetKernelLog
  cases env.kernelLog with
  | none => exact all_fit_nil
  | some file =>
      exact all_fit_cons.2 ⟨length_sprintf_nil_le rfl (by decide), pieces_fit (by decide) _⟩

/-- The lines are short enough: each of them fits behind the lines that have been gathered, which
are sent when they come to more than 140 bytes, or with the seventeenth line of the first message
and the sixteenth of the others. -/
def LinesFit (gathered i : Nat) : List (List UInt8) → Prop
  | [] => True
  | line :: lines =>
      gathered + line.length ≤ 160 ∧
        if i > 15 ∨ gathered + line.length > 140 then LinesFit 0 1 lines
        else LinesFit (gathered + line.length) (i + 1) lines

theorem thank_you_loop_fits_iff (lines : List (List UInt8)) (text : List UInt8) (i : Nat)
    (htext : text.length ≤ 160) :
    AllFit (thankYouLoop text i lines) ↔ LinesFit text.length i lines := by
  induction lines generalizing text i with
  | nil =>
      refine iff_of_true ?_ trivial
      unfold thankYouLoop
      split
      · exact all_fit_nil
      · exact all_fit_singleton.2 htext
  | cons line lines ih =>
      have hline : (sprintf "%s" [line]).length = 0 + (line.length + 0) := length_sprintf _ _ rfl
      have hlength : (text ++ sprintf "%s" [line]).length = text.length + line.length := by
        rw [List.length_append, hline]
        omega
      rw [thankYouLoop, LinesFit, ← hlength]
      by_cases hfull : i > 15 ∨ (text ++ sprintf "%s" [line]).length > 140
      · rw [if_pos hfull, if_pos hfull, all_fit_cons, ih [] 1 (by decide)]
        rfl
      · rw [if_neg hfull, if_neg hfull]
        have hshort : (text ++ sprintf "%s" [line]).length ≤ 160 := by
          rw [not_or] at hfull
          omega
        rw [ih _ _ hshort]
        exact (and_iff_right hshort).symm

set_option maxRecDepth 1000 in
theorem thank_you_fits_iff :
    AllFit (cmdThankYou env) ↔
      env.modemName.length ≤ 119 ∧ ∀ lines, env.thankYou = some lines → LinesFit 0 0 lines := by
  have hversion : (ascii "0.8.0").length = 5 := length_ascii _
  have hname : (sprintf "Hi, my name is %s and I'm at version %s\n"
      [env.modemName, ascii "0.8.0"]).length ≤ Sms.maxMessageSize ↔
        env.modemName.length ≤ 119 := by
    have hlength : (sprintf "Hi, my name is %s and I'm at version %s\n"
        [env.modemName, ascii "0.8.0"]).length =
          36 + (env.modemName.length + ((ascii "0.8.0").length + 0)) := length_sprintf _ _ rfl
    rw [hlength, hversion, Sms.maxMessageSize]
    omega
  have hlines : AllFit (thankYouFile env) ↔
      ∀ lines, env.thankYou = some lines → LinesFit 0 0 lines := by
    unfold thankYouFile
    cases env.thankYou with
    | none => exact iff_of_true all_fit_nil (by simp)
    | some lines =>
        simp only [Option.some.injEq, forall_eq']
        exact thank_you_loop_fits_iff lines [] 0 (by decide)
  have hheart : AllFit
      [sprintf "    .-.     .-.\n .****. .****.\n.*****.*****. Thank\n  .*********.    You\n    .*******.\n     .*****.\n       .***.\n          *\n" [],
        sprintf "Thank you for using me!\n And, especially, for all of you..." []] :=
    all_fit_cons.2 ⟨length_sprintf_nil_le rfl (by decide),
      all_fit_singleton.2 (length_sprintf_nil_le rfl (by decide))⟩
  have hend : AllFit [sprintf "Thank you for supporting my development and improving me every day, I wouldn't have a purpose without you all!" []] :=
    all_fit_singleton.2 (length_sprintf_nil_le rfl (by decide))
  rw [cmdThankYou, all_fit_append, all_fit_append, all_fit_cons, hname, hlines]
  simp only [hheart, hend, and_true]

/-- The number of bytes that the first entries of the history take. -/
def historyLength (entries : List UInt8) (k : Nat) : Nat :=
  (entries.take k).foldr (fun id n => (decimal id.toNat).length + 1 + n) 0

theorem history_length_succ (id : UInt8) (ids : List UInt8) (k : Nat) :
    historyLength (id :: ids) (k + 1) = (decimal id.toNat).length + 1 + historyLength ids k := by
  simp [historyLength]

/-- Once the message is full no entry is appended. -/
theorem history_loop_full {text : List UInt8} (hfull : 160 ≤ text.length) (entries : List UInt8) :
    historyLoop text entries = text := by
  induction entries with
  | nil => rfl
  | cons id ids ih => rw [historyLoop, Sms.maxMessageSize, if_neg (Nat.not_lt.2 hfull), ih]

theorem history_loop_fits_iff (entries : List UInt8) (text : List UInt8) (htext : text.length ≤ 160) :
    (historyLoop text entries).length ≤ 160 ↔
      ∀ k < entries.length, text.length + historyLength entries k < 160 →
        text.length + historyLength entries (k + 1) ≤ 160 := by
  induction entries generalizing text with
  | nil => exact iff_of_true htext (by simp)
  | cons id ids ih =>
      have hentry : (sprintf "%i " [decimal id.toNat]).length = 1 + ((decimal id.toNat).length + 0) :=
        length_sprintf _ _ rfl
      have hlength : (text ++ sprintf "%i " [decimal id.toNat]).length =
          text.length + ((decimal id.toNat).length + 1) := by
        rw [List.length_append, hentry]
        omega
      rw [List.length_cons, Nat.forall_lt_succ_left]
      by_cases hfull : 160 ≤ text.length
      · rw [history_loop_full hfull]
        exact iff_of_true htext ⟨by omega, by omega⟩
      · rw [historyLoop, Sms.maxMessageSize, if_pos (Nat.lt_of_not_le hfull)]
        simp only [history_length_succ]
        have hzero : ∀ entries : List UInt8, historyLength entries 0 = 0 := fun _ => rfl
        rw [hzero, hzero]
        by_cases hshort : text.length + ((decimal id.toNat).length + 1) ≤ 160
        · rw [ih _ (hlength ▸ hshort), hlength]
          simp only [Nat.add_assoc, Nat.add_zero] at hshort ⊢
          exact (and_iff_right fun _ => hshort).symm
        · -- the entry that overflows is the last one that is appended
          rw [history_loop_full (by omega), hlength]
          exact iff_of_false hshort fun hall => hshort (by have := hall.1 (by omega); omega)

theorem history_fits_iff :
    AllFit (historyReplies env) ↔
      (env.cmdPosition ≤ 255 → ∀ k < env.cmdPosition,
        historyLength env.historyEntries k < 160 →
          historyLength env.historyEntries (k + 1) ≤ 160) := by
  have hlength : env.historyEntries.length = env.cmdPosition := by
    simp [ChatEnv.historyEntries]
  have hloop := history_loop_fits_iff env.historyEntries [] (by decide)
  simp only [List.length_nil, Nat.zero_add, hlength] at hloop
  unfold historyReplies
  by_cases hshort : env.cmdPosition ≤ 255
  · rw [if_pos hshort, all_fit_singleton, Sms.maxMessageSize, hloop]
    simp [hshort]
  · rw [if_neg hshort]
    exact iff_of_true all_fit_nil fun hle => absurd hle hshort

theorem service_name_bounds :
    ∀ entry ∈ qmiServices, 3 ≤ (ascii entry.2).length ∧ (ascii entry.2).length ≤ 46 := by
  simp only [qmiServices, List.forall_mem_cons, List.not_mem_nil, false_implies, implies_true,
    and_true]
  repeat' apply And.intro
  all_goals
    rw [length_ascii]
    decide

/-- The room that the loop keeps free is enough for the next line, as no name is shorter than three
bytes. -/
theorem services_loop_fits (services : List (UInt8 × String)) (text : List UInt8)
    (hservices : ∀ entry ∈ services, 3 ≤ (ascii entry.2).length ∧ (ascii entry.2).length ≤ 46)
    (htext : text.length ≤ Sms.maxMessageSize) : AllFit (servicesLoop text services) := by
  induction services generalizing text with
  | nil => exact all_fit_singleton.2 htext
  | cons entry services ih =>
      obtain ⟨service, name⟩ := entry
      have hlow : 3 ≤ (ascii name).length := (hservices _ (List.mem_cons_self ..)).1
      have hhigh : (ascii name).length ≤ 46 := (hservices _ (List.mem_cons_self ..)).2
      have hrest := fun entry hentry => hservices entry (List.mem_cons_of_mem _ hentry)
      have hnumber := length_decimal_uint8 service
      have hline : (sprintf "%u: %s\n" [decimal service.toNat, ascii name]).length =
          3 + ((decimal service.toNat).length + ((ascii name).length + 0)) := length_sprintf _ _ rfl
      simp only [servicesLoop]
      split
      · exact all_fit_cons.2 ⟨htext, ih _ hrest (by rw [hline, Sms.maxMessageSize]; omega)⟩
      · next hroom =>
          rw [Sms.maxMessageSize] at hroom
          refine ih _ hrest ?_
          rw [List.length_append, hline, Sms.maxMessageSize]
          omega

theorem known_qmi_services_fits : AllFit knownQmiServicesReplies :=
  all_fit_cons.2 ⟨by decide, services_loop_fits _ _ service_name_bounds (by decide)⟩

/-- The text of task `i` fits, if it is pending and printed. -/
def TaskFits (i : Nat) (task : Task) : Prop :=
  task.pending →
    match task.type with
    | .wakeHost => (decimal i).length + (minutesToExec env task).length ≤ 125
    | .dndClear => True
    | _ => (decimal i).length + (minutesToExec env task).length + task.arguments.length ≤ 122

theorem task_text_fits_iff (i : Nat) {text : List UInt8} (htext : text.length ≤ 160) (task : Task)
    (hpending : task.pending) :
    (taskText env i text task).length ≤ 160 ↔ TaskFits env i task := by
  simp only [TaskFits, hpending, forall_const]
  unfold taskText
  cases task.type with
  | call =>
      have hlength : (sprintf "Task %i:\n Call me (%ld min to exec): args: %s"
          [decimal i, minutesToExec env task, task.arguments]).length =
            38 + ((decimal i).length + ((minutesToExec env task).length +
              (task.arguments.length + 0))) := length_sprintf _ _ rfl
      simp only [hlength]
      omega
  | sms =>
      have hlength : (sprintf "Task %i:\n Text me (%ld min to exec): args: %s"
          [decimal i, minutesToExec env task, task.arguments]).length =
            38 + ((decimal i).length + ((minutesToExec env task).length +
              (task.arguments.length + 0))) := length_sprintf _ _ rfl
      simp only [hlength]
      omega
  | wakeHost =>
      have hlength : (sprintf "Task %i:\n Wake host up (%ld min to exec)"
          [decimal i, minutesToExec env task]).length =
            35 + ((decimal i).length + ((minutesToExec env task).length + 0)) :=
        length_sprintf _ _ rfl
      simp only [hlength]
      omega
  | dndClear => exact iff_of_true htext trivial

theorem pending_tasks_loop_fits_iff (tasks : List Task) (i : Nat) (text : List UInt8)
    (htext : text.length ≤ 160) :
    AllFit (pendingTasksLoop env i text tasks) ↔
      ∀ k (h : k < tasks.length), TaskFits env (i + k) tasks[k] := by
  induction tasks generalizing i text with
  | nil => exact iff_of_true all_fit_nil (by simp)
  | cons task tasks ih =>
      have hsplit : (∀ k (h : k < (task :: tasks).length), TaskFits env (i + k) (task :: tasks)[k]) ↔
          TaskFits env i task ∧ ∀ k (h : k < tasks.length), TaskFits env (i + 1 + k) tasks[k] := by
        constructor
        · intro hall
          refine ⟨hall 0 (by simp), fun k hk => ?_⟩
          have hnext := hall (k + 1) (by simpa using hk)
          rw [Nat.add_assoc, Nat.add_comm 1 k]
          exact hnext
        · rintro ⟨hfirst, hrest⟩ k hk
          cases k with
          | zero => exact hfirst
          | succ k =>
              have hnext := hrest k (by simpa using hk)
              rw [Nat.add_assoc, Nat.add_comm 1 k] at hnext
              exact hnext
      rw [hsplit, pendingTasksLoop]
      by_cases hpending : task.pending
      · rw [if_pos hpending, all_fit_cons, Sms.maxMessageSize,
          task_text_fits_iff env i htext task hpending]
        refine and_congr_right fun hfits => ih (i + 1) _ ?_
        exact (task_text_fits_iff env i htext task hpending).2 hfits
      · rw [if_neg hpending, ih (i + 1) text htext]
        have hidle : TaskFits env i task := fun h => absurd h hpending
        exact (and_iff_right hidle).symm

theorem pending_tasks_fits_iff :
    AllFit (dumpPendingTasks env) ↔
      ∀ i (h : i < env.tasks.length), TaskFits env i env.tasks[i] := by
  have hloop := pending_tasks_loop_fits_iff env env.tasks 0 [] (by decide)
  simp only [Nat.zero_add] at hloop
  unfold dumpPendingTasks
  split
  · exact hloop
  · next hnone =>
      refine iff_of_true (all_fit_singleton.2 (length_sprintf_nil_le rfl (by decide))) ?_
      intro i hi hpending
      exact absurd (List.any_eq_true.2 ⟨_, List.getElem_mem hi, hpending⟩) hnone

/-! ## Answers to commands with arguments -/

theorem with_arguments_fits {id : CommandId} {error : Reply} {reply : List UInt8 → Reply}
    (herror : error.length ≤ Sms.maxMessageSize)
    (hreply : ∀ args, (reply args).length ≤ Sms.maxMessageSize) :
    AllFit [withArguments id command error reply] := by
  rw [all_fit_singleton]
  unfold withArguments
  split
  · exact herror
  · exact Nat.zero_le _
  · exact hreply _

theorem set_modem_name_fits : AllFit (cmdSetCustomModemName command) := by
  refine with_arguments_fits command (length_sprintf_nil_le rfl (by decide)) fun args => ?_
  refine length_sprintf_le 31 ?_ rfl (by decide)
  exact List.forall_mem_singleton.2 (List.length_take_le 31 args)

theorem set_user_name_fits : AllFit (cmdSetCustomUserName command) := by
  refine with_arguments_fits command (length_sprintf_nil_le rfl (by decide)) fun args => ?_
  refine length_sprintf_le 31 ?_ rfl (by decide)
  exact List.forall_mem_singleton.2 (List.length_take_le 31 args)

theorem length_qmi_service_name (service : UInt8) : (getQmiServiceName service).length ≤ 46 := by
  unfold getQmiServiceName
  split
  · next entry hentry => exact (service_name_bounds entry (List.mem_of_find?_eq_some hentry)).2
  · decide

theorem service_debugging_fits : AllFit (cmdEnableServiceDebuggingForServiceId command) := by
  refine with_arguments_fits command (length_sprintf_nil_le rfl (by decide)) fun args => ?_
  refine length_sprintf_le 46 ?_ rfl (by decide)
  have hnumber := length_decimal_uint8 (UInt8.ofInt (atoi args))
  simp only [List.forall_mem_cons, List.not_mem_nil, false_implies, implies_true, and_true]
  exact ⟨by omega, length_qmi_service_name _⟩

theorem length_signal_tracking_mode : ∀ mode ∈ signalTrackingModes, mode.length ≤ 20 := by
  decide +kernel

theorem signal_tracking_mode_fits : AllFit (cmdSetNewSignalTrackingMode command) := by
  refine with_arguments_fits command (length_sprintf_nil_le rfl (by decide)) fun args => ?_
  have hnumber := length_decimal_uint8 (UInt8.ofInt (atoi args))
  simp only
  split
  · next hmode =>
      refine length_sprintf_le 20 (List.forall_mem_singleton.2 ?_) rfl (by decide)
      have hplace : (UInt8.ofInt (atoi args)).toNat < signalTrackingModes.length := hmode
      rw [List.getD_eq_getElem _ _ hplace]
      exact length_signal_tracking_mode _ (List.getElem_mem hplace)
  · refine length_sprintf_le 20 ?_ rfl (by decide)
    intro arg harg
    obtain hmode | hchoice := List.mem_append.1 harg
    · exact length_signal_tracking_mode arg hmode
    · rw [List.mem_singleton.1 hchoice]
      omega

theorem delete_task_fits : AllFit (cmdDeleteTask env command) := by
  refine with_arguments_fits command (length_sprintf_nil_le rfl (by decide)) fun args => ?_
  split
  · refine length_sprintf_le 11 ?_ rfl (by decide)
    exact List.forall_mem_singleton.2 (length_signed_atoi args)
  · refine length_sprintf_le 11 ?_ rfl (by decide)
    exact List.forall_mem_singleton.2 (length_signed_atoi args)

/-- What follows the command, which is nothing if the command only matches in lower case. -/
def argumentText (id : CommandId) (command : List UInt8) : List UInt8 :=
  (arguments id command).getD []

theorem network_text_fits_iff {id : CommandId} {error : Reply} {reply : List UInt8 → Reply}
    {fixed : Nat} (herror : error.length ≤ Sms.maxMessageSize)
    (hfixed : fixed ≤ Sms.maxMessageSize)
    (hreply : ∀ args, (reply args).length = fixed + args.length) :
    AllFit (networkTextReplies id command error reply) ↔
      fixed + min 127 (argumentText id command).length ≤ Sms.maxMessageSize := by
  unfold networkTextReplies argumentText
  split
  · next hnone =>
      rw [hnone]
      exact iff_of_true (all_fit_singleton.2 herror) hfixed
  · next hempty =>
      rw [hempty]
      exact iff_of_true all_fit_nil hfixed
  · next args _ hargs =>
      rw [hargs, all_fit_singleton, hreply, List.length_take]
      rfl

theorem new_apn_fits : AllFit (cmdConfigureNewApn command) := by
  have hreply : ∀ apn : List UInt8,
      (sprintf "Setting internal APN name to %s\n" [apn]).length = 30 + apn.length :=
    fun apn => length_sprintf _ _ rfl
  refine (network_text_fits_iff command (length_sprintf_nil_le rfl (by decide)) (by decide)
    hreply).2 ?_
  rw [Sms.maxMessageSize]
  omega

theorem apn_username_fits_iff :
    AllFit (cmdConfigureApnUsername command) ↔
      (argumentText .actionInternalNetworkSetUser command).length ≤ 126 := by
  have hreply : ∀ user : List UInt8,
      (sprintf "Setting internal APN username to %s\n" [user]).length = 34 + user.length :=
    fun user => length_sprintf _ _ rfl
  have hfits : AllFit (cmdConfigureApnUsername command) ↔
      34 + min 127 (argumentText .actionInternalNetworkSetUser command).length ≤ 160 :=
    network_text_fits_iff command (length_sprintf_nil_le rfl (by decide)) (by decide) hreply
  exact hfits.trans (by omega)

theorem apn_password_fits_iff :
    AllFit (cmdConfigureApnPassword command) ↔
      (argumentText .actionInternalNetworkSetPass command).length ≤ 126 := by
  have hreply : ∀ pass : List UInt8,
      (sprintf "Setting internal APN password to %s\n" [pass]).length = 34 + pass.length :=
    fun pass => length_sprintf _ _ rfl
  have hfits : AllFit (cmdConfigureApnPassword command) ↔
      34 + min 127 (argumentText .actionInternalNetworkSetPass command).length ≤ 160 :=
    network_text_fits_iff command (length_sprintf_nil_le rfl (by decide)) (by decide) hreply
  exact hfits.trans (by omega)

theorem word_fits {id : CommandId} {words : List (List UInt8)} {changed : List UInt8 → Reply}
    {unknown : Reply} (hchanged : ∀ word ∈ words, (changed word).length ≤ Sms.maxMessageSize)
    (hunknown : unknown.length ≤ Sms.maxMessageSize) :
    AllFit (wordReplies id command words changed unknown) := by
  refine all_fit_singleton.2 ?_
  split
  · next hword => exact hchanged _ hword
  · exact hunknown

theorem auth_method_fits : AllFit (cmdConfigureInternalNetworkAuthMethod command) := by
  have hwords : ∀ word ∈ [ascii "none", ascii "pap", ascii "chap", ascii "auto"],
      word.length ≤ 4 := by decide +kernel
  refine word_fits command (fun word hword => ?_) (length_sprintf_nil_le rfl (by decide))
  refine length_sprintf_le 4 ?_ rfl (by decide)
  exact List.forall_mem_singleton.2 (hwords word hword)

theorem cell_notification_fits : AllFit (cmdConfigureSignalTrackingCellNotification command) := by
  have hwords : ∀ word ∈ [ascii "none", ascii "new", ascii "all"], word.length ≤ 4 := by
    decide +kernel
  refine word_fits command (fun word hword => ?_) (length_sprintf_nil_le rfl (by decide))
  refine length_sprintf_le 4 ?_ rfl (by decide)
  exact List.forall_mem_singleton.2 (hwords word hword)

theorem definition_pieces_fit (definition : List UInt8) : AllFit (definitionPieces definition) := by
  fun_induction definitionPieces definition with
  | case1 definition hlong ih =>
      refine all_fit_cons.2 ⟨?_, ih⟩
      rw [List.length_append, List.length_take, Sms.maxMessageSize]
      simp only [List.length_singleton]
      omega
  | case2 => exact all_fit_nil
  | case3 definition hshort hnonempty => exact all_fit_singleton.2 (Nat.le_of_not_lt hshort)

theorem dictionary_entry_fits {word : List UInt8} (hword : word.length ≤ 127) :
    AllFit (cmdFindDictionaryEntry env word) := by
  unfold cmdFindDictionaryEntry
  split
  · exact all_fit_nil
  · split
    · exact definition_pieces_fit _
    · refine all_fit_singleton.2 (length_sprintf_le 127 ?_ rfl (by decide))
      exact List.forall_mem_singleton.2 hword

theorem search_dictionary_fits : AllFit (cmdSearchDictionaryEntry env command) := by
  unfold cmdSearchDictionaryEntry
  split
  · exact all_fit_nil
  · exact all_fit_nil
  · exact dictionary_entry_fits env (List.length_take_le 127 _)

/-! ## Answers that repeat a name or the command -/

theorem length_signed_call_delay (args : List UInt8) : (signed (callDelay args)).length ≤ 11 :=
  length_signed_atoi _

theorem schedule_call_fits_iff :
    AllFit (cmdScheduleCall env command) ↔
      (arguments .actionCallOwnerCountdown command = none ∨
        0 < callDelay (argumentText .actionCallOwnerCountdown command) ∨
        env.userName.length ≤ 99) := by
  unfold cmdScheduleCall argumentText
  split
  · next hnone =>
      exact iff_of_true (all_fit_singleton.2 (length_sprintf_nil_le rfl (by decide))) (.inl hnone)
  · next args hargs =>
      simp only [hargs, reduceCtorEq, false_or, Option.getD_some]
      split
      · next hdelay =>
          refine iff_of_true (all_fit_singleton.2 ?_) (.inl hdelay)
          refine length_sprintf_le 11 ?_ rfl (by decide)
          exact List.forall_mem_singleton.2 (length_signed_call_delay args)
      · next hdelay =>
          have hlength : (sprintf "Please tell me in how many seconds you want me to call you, %s\n"
              [env.userName]).length = 61 + (env.userName.length + 0) := length_sprintf _ _ rfl
          rw [all_fit_singleton, hlength, Sms.maxMessageSize]
          omega

theorem unknown_command_fits_iff :
    AllFit (unknownCommandReplies env command) ↔ env.userName.length + command.length ≤ 118 := by
  have hlength : (sprintf "Sorry %s, I don't understand the command '%s'\n"
      [env.userName, command]).length = 42 + (env.userName.length + (command.length + 0)) :=
    length_sprintf _ _ rfl
  rw [unknownCommandReplies, all_fit_singleton, hlength, Sms.maxMessageSize]
  omega

end OpenQti.Chat
