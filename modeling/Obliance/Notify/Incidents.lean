import Obliance.Js.Number
import Obliance.Metrics.Pushes
import Obliance.Notify.Sources

/-!
# What a metric incident sends (`services/notification.service.ts`, `services/device.service.ts`)

A push that alerts calls `sendForAgent`, which asks which notification types are on for the device and
then writes to its channels.

* `resolveNotificationTypesForDevice` : device, groups from the leaf up, global, built-in defaults;
* `resolved_type` : every type has the first value of its chain that is set;
* `sendToChannels`, `sendToChannels_fst` : the loop over the channels ends with the first, whose log throws;
* `sendForAgent`, `pushSends` : what is written, and what a push passes to it;
* `pushSends_alert` : a push that alerts only asks whether `online` is on, and writes to one channel;
* `honoured_iff` : when the preference of the level is honoured.
-/

namespace Obliance.Notify
open Obliance.Js Obliance.Groups Obliance.Devices Obliance.Metrics KeyedTable

inductive NotificationType where
  | online
  | offline
  | warning
  | critical
  | update
  deriving DecidableEq, Repr

/-- `DeviceNotificationTypes`, a field that is absent being undefined. -/
abbrev NotificationTypes := NotificationType → JsVal

/-- `DEFAULT_NOTIFICATION_TYPES` -/
def defaultTypes : NotificationTypes
  | .update => .bool false
  | _ => .bool true

structure AgentDb extends SourcesDb where
  /-- The column `notification_types` of a device. -/
  deviceTypes : ℕ → Option NotificationTypes
  /-- `group_config.notificationTypes` of a group. -/
  groupTypes : ℕ → Option NotificationTypes
  /-- `notificationTypes` of the global agent configuration. -/
  globalTypes : Option NotificationTypes
  /-- `config.smtpServerId` of a channel. -/
  smtpServerId : ℕ → JsVal
  /-- The ids of `smtp_servers`. -/
  smtpServers : List ℕ

/-! ## The types of a device -/

def isSet (v : JsVal) : Bool := decide (v ≠ .null) && decide (v ≠ .undefined)

/-- A field keeps the first value that is set. -/
def applyConfig (acc : NotificationTypes) (cfg : Option NotificationTypes) : NotificationTypes :=
  match cfg with
  | none => acc
  | some cfg => fun t => if acc t = .undefined && isSet (cfg t) then cfg t else acc t

/-- `WHERE descendant_id = ? ORDER BY depth ASC`: the group itself first, the root last. -/
def ancestorIdsUp (closure : List ClosureRow) (groupId : ℕ) : List ℕ :=
  ((closure.filter fun r => r.descendantId = groupId).insertionSort fun r s => r.depth ≤ s.depth).map
    ClosureRow.ancestorId

/-- `getResolvedAgentNotificationTypes` -/
def getResolvedAgentNotificationTypes (globalTypes : Option NotificationTypes) : NotificationTypes :=
  match globalTypes with
  | none => defaultTypes
  | some nt => fun t => (nt t).orElse (defaultTypes t)

/-- The configurations above the global one, in the order in which they are asked. -/
def typeConfigs (db : AgentDb) (deviceId : ℕ) : List (Option NotificationTypes) :=
  (device db.devices deviceId).bind (fun d => db.deviceTypes d.id) ::
    match truthyGroup db.devices deviceId with
    | some g => (ancestorIdsUp db.closure g).map db.groupTypes
    | none => []

def resolveNotificationTypesForDevice (db : AgentDb) (deviceId : ℕ) : NotificationTypes :=
  let acc := (typeConfigs db deviceId).foldl applyConfig fun _ => .undefined
  let globalTypes := getResolvedAgentNotificationTypes db.globalTypes
  fun t => (if acc t = .undefined then globalTypes t else acc t).orElse (defaultTypes t)

/-- The first value of a type that is set, from the first configuration on. -/
def firstSet (cfgs : List (Option NotificationTypes)) (t : NotificationType) : Option JsVal :=
  (cfgs.filterMap fun cfg => cfg.map fun nt => nt t).find? isSet

section Chain
variable {cfgs cfgs' : List (Option NotificationTypes)} {nt : NotificationTypes} {t : NotificationType} {v d : JsVal}

@[simp] theorem firstSet_nil : firstSet [] t = none := rfl

@[simp] theorem firstSet_none : firstSet (none :: cfgs) t = firstSet cfgs t := rfl

theorem firstSet_some :
    firstSet (some nt :: cfgs) t = if isSet (nt t) then some (nt t) else firstSet cfgs t := by
  change (nt t :: cfgs.filterMap fun cfg => cfg.map fun nt => nt t).find? isSet = _
  rw [List.find?_cons]
  cases isSet (nt t) <;> rfl

theorem firstSet_append : firstSet (cfgs ++ cfgs') t = (firstSet cfgs t).or (firstSet cfgs' t) := by
  rw [firstSet, List.filterMap_append, List.find?_append]
  rfl

theorem isSet_of_firstSet (h : firstSet cfgs t = some v) : isSet v = true := List.find?_some h

theorem ne_undefined_of_isSet (h : isSet v = true) : v ≠ .undefined := by
  rintro rfl
  cases h

theorem orElse_of_isSet (h : isSet v = true) : v.orElse d = v := by
  cases v with
  | undefined => cases h
  | null => cases h
  | _ => rfl

theorem orElse_of_not_isSet (h : isSet v = false) : v.orElse d = d := by
  cases v with
  | undefined => rfl
  | null => rfl
  | _ => cases h

theorem isSet_default (t : NotificationType) : isSet (defaultTypes t) = true := by
  cases t <;> rfl

theorem foldl_applyConfig (cfgs : List (Option NotificationTypes)) (t : NotificationType) :
    ∀ acc : NotificationTypes,
      cfgs.foldl applyConfig acc t =
        if acc t = .undefined then (firstSet cfgs t).getD .undefined else acc t := by
  induction cfgs with
  | nil =>
      intro acc
      simp
  | cons cfg cfgs ih =>
      intro acc
      rw [List.foldl_cons, ih]
      cases cfg with
      | none => rfl
      | some nt =>
          rw [firstSet_some]
          by_cases ha : acc t = .undefined
          · cases hs : isSet (nt t) with
            | false => simp [applyConfig, ha, hs]
            | true => simp [applyConfig, ha, hs, ne_undefined_of_isSet hs]
          · simp [applyConfig, ha]

theorem resolvedGlobal (globalTypes : Option NotificationTypes) (t : NotificationType) :
    getResolvedAgentNotificationTypes globalTypes t = (firstSet [globalTypes] t).getD (defaultTypes t) := by
  cases globalTypes with
  | none => rfl
  | some nt =>
      rw [firstSet_some]
      cases hs : isSet (nt t) with
      | false => exact orElse_of_not_isSet hs
      | true => exact orElse_of_isSet hs

end Chain

/-- The registered plugins. -/
def pluginTypes : List String :=
  ["webhook", "discord", "telegram", "slack", "teams", "gotify", "ntfy", "pushover", "smtp", "freemobile"]

/-- `getPlugin(type)` finds a plugin. -/
def hasPlugin (type : String) : Bool := decide (type ∈ pluginTypes)

structure NotificationPayload where
  monitorName : String
  oldStatus : String
  newStatus : String
  message : String
  timestamp : String
  appName : String
  deriving DecidableEq, Repr

def agentMessage (deviceName newStatus : String) (violations : Option (List String)) : String :=
  if newStatus = "alert" then
    match violations with
    | some (v :: vs) => String.intercalate "; " (v :: vs)
    | _ => "Agent device \"" ++ deviceName ++ "\" has threshold violations"
  else "Agent device \"" ++ deviceName ++ "\" metrics are back to normal"

/-- The rows of the channels, in the order of the table. -/
def enabledChannels (channels : List ChannelRow) (channelIds : List ℕ) : List ChannelRow :=
  channels.filter fun c => decide (c.id ∈ channelIds) && c.isEnabled

/-- `resolveChannelConfig` throws where the SMTP server of the channel is not found. -/
def configResolves (db : AgentDb) (c : ChannelRow) : Bool :=
  if c.type = "smtp" && (db.smtpServerId c.id).truthy then
    db.smtpServers.any fun id => decide ((db.smtpServerId c.id).toNumber = some (id : ℚ))
  else true

/-- The columns of `notification_log`. -/
def notificationLogColumns : List String :=
  ["id", "channel_id", "scope", "scope_id", "event_type", "status", "error_message", "created_at"]

/-- Whether the insert of `logNotification` finds its columns; else it throws. -/
def logNotification : Bool :=
  ["channel_id", "monitor_id", "event_type", "success", "error"].all fun c => decide (c ∈ notificationLogColumns)

/-- The loop over the channels: those that are written to, with what they are sent. A send that fails, or a
configuration that does not resolve, is logged as a send that does not; where the log throws the loop is left. -/
def sendToChannels (db : AgentDb) (payload : NotificationPayload) :
    List ChannelRow → List (ChannelRow × NotificationPayload)
  | [] => []
  | c :: cs =>
      if !hasPlugin c.type then sendToChannels db payload cs
      else (if configResolves db c then [(c, payload)] else []) ++
        if logNotification then sendToChannels db payload cs else []

/-- What is written to the channels. -/
def sendForAgent (db : AgentDb) (appName timestamp : String) (deviceId : ℕ)
    (deviceName newStatus previousStatus : String) (violations : Option (List String)) (notifType : Option String) :
    List (ChannelRow × NotificationPayload) :=
  if newStatus = previousStatus then []
  else
    let types := resolveNotificationTypesForDevice db deviceId
    if !(types .online).truthy then []
    else
      let effectiveType := notifType.getD (if newStatus = "alert" then "alert" else "up")
      if effectiveType = "critical" && !(types .critical).truthy then []
      else if effectiveType = "warning" && !(types .warning).truthy then []
      else if effectiveType = "update" && !(types .update).truthy then []
      else
        let channelIds := resolveChannelsForAgent db.toNotifyDb deviceId
        let payload : NotificationPayload :=
          { monitorName := deviceName
            oldStatus := previousStatus
            newStatus := newStatus
            message := agentMessage deviceName newStatus violations
            timestamp := timestamp
            appName := appName }
        sendToChannels db payload (enabledChannels db.channels channelIds)

/-- Every label of the column has a plugin, so no enabled channel is skipped. -/
theorem hasPlugin_of_typed (c : ChannelRow) : hasPlugin c.type = true := by
  have hall : ∀ type ∈ channelTypes, hasPlugin type = true := by decide
  exact hall c.type c.typed

/-- **The loop ends with the first channel**: the log has not the columns that are inserted. -/
theorem sendToChannels_fst (db : AgentDb) (payload : NotificationPayload) (cs : List ChannelRow) :
    (sendToChannels db payload cs).map Prod.fst = (cs.head?.filter (configResolves db)).toList := by
  have hthrows : logNotification = false := by decide
  cases cs with
  | nil => rfl
  | cons c cs =>
      rw [sendToChannels, hasPlugin_of_typed, hthrows, List.head?_cons, Option.filter_some]
      cases configResolves db c <;> rfl

/-! ## The call of a push -/

/-- The level a push compares the fresh one with. -/
def prevAlertStatus (prev : PushDevice) (ev : Evaluation) : Option MetricLevel :=
  let rebased := ev.thresholds.bind fun t =>
    inlineRebaselinePrevAlert (prev.lastMetricAlertStatus.or prev.lastMetricStatus) ev.alert
      prev.latestMetrics t
  (planMetricTransitions prev.lastMetricStatus (rebased.or prev.lastMetricAlertStatus) ev.metric ev.alert
    ev.thresholds.isSome).prevAlert

/-- What the notification block of `handlePush` sends; `dev` is the row it reads the name from. -/
def pushSends (showNumber : ℚ → String) (db : AgentDb) (appName timestamp : String) (deviceId : ℕ)
    (prev : PushDevice) (dev : Option PushDevice) (ev : Evaluation) : List (ChannelRow × NotificationPayload) :=
  let plan := pushPlan prev ev
  match plan.notify, plan.thresholds with
  | some notify, some th =>
      sendForAgent db appName timestamp deviceId ((dev.map Metrics.dispName).getD ("#" ++ toString deviceId))
        (if notify = .recovery then "up" else "alert")
        (levelName ((prevAlertStatus prev ev).getD .ok))
        (some (plan.alertBreaches.map (violationText showNumber th)))
        (some (if ev.alert = .critical then "alert" else if ev.alert = .warning then "alert" else "up"))
  | _, _ => []

/-- The type of an alert level. -/
def levelType : MetricLevel → NotificationType
  | .critical => .critical
  | _ => .warning

variable (showNumber : ℚ → String) (db : AgentDb) (appName timestamp : String) (deviceId : ℕ)
  {prev : PushDevice} (dev : Option PushDevice) {ev : Evaluation}

theorem alert_ne_levelName (level : MetricLevel) : ("alert" : String) ≠ levelName level := by
  cases level <;> decide

/-- The channel a push that alerts writes to. -/
def firstChannel (db : AgentDb) (deviceId : ℕ) : Option ChannelRow :=
  (enabledChannels db.channels (resolveChannelsForAgent db.toNotifyDb deviceId)).head?.filter (configResolves db)

/-- An event of type 'alert' asks for `online` and for nothing else. -/
theorem sendForAgent_alert {deviceName previousStatus : String} {violations : Option (List String)}
    (hne : "alert" ≠ previousStatus) :
    (sendForAgent db appName timestamp deviceId deviceName "alert" previousStatus violations
        (some "alert")).map Prod.fst =
      if (resolveNotificationTypesForDevice db deviceId .online).truthy then (firstChannel db deviceId).toList
      else [] := by
  rw [sendForAgent, if_neg hne]
  cases honline : (resolveNotificationTypesForDevice db deviceId .online).truthy with
  | false => simp [honline]
  | true => simp [honline, sendToChannels_fst, firstChannel]

/-- A push that alerts has evaluated its metrics and found a level that is not ok. -/
theorem pushPlan_alert (halert : (pushPlan prev ev).notify = some .alert) :
    (∃ th, (pushPlan prev ev).thresholds = some th) ∧ (ev.alert = .critical ∨ ev.alert = .warning) := by
  simp only [pushPlan] at halert
  rw [plan_alert_iff] at halert
  obtain ⟨hev, hbad⟩ := halert
  refine ⟨Option.isSome_iff_exists.1 hev, ?_⟩
  revert hbad
  generalize Option.or _ _ = prevAlert
  cases ev.alert <;> rcases prevAlert with _ | _ | _ | _ <;> decide

/-- **A push that alerts asks for `online` and for nothing else**, whatever its level. -/
theorem pushSends_alert (halert : (pushPlan prev ev).notify = some .alert) :
    (pushSends showNumber db appName timestamp deviceId prev dev ev).map Prod.fst =
      if (resolveNotificationTypesForDevice db deviceId .online).truthy then (firstChannel db deviceId).toList
      else [] := by
  obtain ⟨⟨th, hthresholds⟩, hlevel⟩ := pushPlan_alert halert
  have htype : (if ev.alert = .critical then "alert" else if ev.alert = .warning then "alert" else "up") =
      "alert" := by
    rcases hlevel with h | h <;> rw [h] <;> rfl
  simp only [pushSends, halert, hthresholds, htype]
  exact sendForAgent_alert db appName timestamp deviceId (alert_ne_levelName _)

/-! ## Whether the preferences are honoured -/

/-- The level's own type off: nothing is sent. It and `online` on: exactly the enabled channels of the
device are written to. -/
structure Honoured (prev : PushDevice) (ev : Evaluation) : Prop where
  off : (resolveNotificationTypesForDevice db deviceId (levelType ev.alert)).truthy = false →
    pushSends showNumber db appName timestamp deviceId prev dev ev = []
  on : (resolveNotificationTypesForDevice db deviceId (levelType ev.alert)).truthy = true →
    (resolveNotificationTypesForDevice db deviceId .online).truthy = true →
      (pushSends showNumber db appName timestamp deviceId prev dev ev).map Prod.fst =
        enabledChannels db.channels (resolveChannelsForAgent db.toNotifyDb deviceId)

/-- The channels leave the preference of a level no difference to make: there is none; or the type is on, and there is
one with a configuration; or it is off, and the first has none. -/
def Suited (level : MetricLevel) : Prop :=
  match enabledChannels db.channels (resolveChannelsForAgent db.toNotifyDb deviceId) with
  | [] => True
  | c :: cs =>
      if (resolveNotificationTypesForDevice db deviceId (levelType level)).truthy then
        cs = [] ∧ configResolves db c = true
      else configResolves db c = false

instance (level : MetricLevel) : Decidable (Suited db deviceId level) := by
  unfold Suited
  split
  · exact inferInstanceAs (Decidable True)
  · infer_instance

/-- **The preferences are honoured exactly where they cannot matter**: `online` is off, or the channels are suited. -/
theorem honoured_iff (halert : (pushPlan prev ev).notify = some .alert) :
    Honoured showNumber db appName timestamp deviceId dev prev ev ↔
      (resolveNotificationTypesForDevice db deviceId .online).truthy = false ∨ Suited db deviceId ev.alert := by
  have hsends := pushSends_alert showNumber db appName timestamp deviceId dev halert
  have hnil : pushSends showNumber db appName timestamp deviceId prev dev ev = [] ↔
      (pushSends showNumber db appName timestamp deviceId prev dev ev).map Prod.fst = [] := List.map_eq_nil_iff.symm
  have hspec : Honoured showNumber db appName timestamp deviceId dev prev ev ↔ _ ∧ _ :=
    ⟨fun h => ⟨h.off, h.on⟩, fun h => ⟨h.1, h.2⟩⟩
  rw [hspec, hnil, hsends]
  cases (resolveNotificationTypesForDevice db deviceId .online).truthy with
  | false => simp
  | true =>
      unfold firstChannel Suited
      cases enabledChannels db.channels (resolveChannelsForAgent db.toNotifyDb deviceId) with
      | nil => simp
      | cons c cs =>
          simp only [List.head?_cons, Option.filter_some]
          cases (resolveNotificationTypesForDevice db deviceId (levelType ev.alert)).truthy with
          | false => cases configResolves db c <;> simp
          | true => cases configResolves db c <;> cases cs <;> simp

/-! ## Failing input -/

/-- A device with a channel and the type 'critical' off. -/
def mutedDb : AgentDb where
  bindings := [⟨1, 1, 7, .global, none, .merge⟩]
  closure := []
  devices := [⟨1, 1, none⟩]
  groupNames := []
  channels := [⟨7, "ops", "slack", true, by decide⟩]
  deviceTypes _ := some fun t => if t = .critical then .bool false else .undefined
  groupTypes _ := none
  globalTypes := none
  smtpServerId _ := .undefined
  smtpServers := []

def mutedDevice : PushDevice := ⟨1, 1, none, .online, "srv-1", none, none, none, some .ok, some .ok⟩

def hotThresholds : ResolvedThresholds := ⟨⟨80, 90, true⟩, ⟨85, 95, true⟩, ⟨80, 90, true⟩, []⟩

/-- A CPU at 97 percent. -/
def hotEvaluation : Evaluation := evaluate true (some ⟨some 97, none, []⟩) (some hotThresholds)

theorem hotEvaluation_alerts : (pushPlan mutedDevice hotEvaluation).notify = some .alert := by
  decide +kernel

/-- A critical alert is sent although the device has the type 'critical' off. -/
theorem critical_off_is_sent :
    ¬ ∀ (showNumber : ℚ → String) (db : AgentDb) (appName timestamp : String) (deviceId : ℕ)
        (prev : PushDevice) (dev : Option PushDevice) (enabled : Bool) (metrics : Option PushMetrics)
        (resolved : Option ResolvedThresholds),
      (pushPlan prev (evaluate enabled metrics resolved)).notify = some .alert →
        Honoured showNumber db appName timestamp deviceId dev prev (evaluate enabled metrics resolved) := by
  intro h
  have hoff : pushSends (fun _ => "") mutedDb "Obliance" "" 1 mutedDevice none hotEvaluation = [] :=
    (h (fun _ => "") mutedDb "Obliance" "" 1 mutedDevice none true _ _ hotEvaluation_alerts).off
      (by decide +kernel)
  have hsent := pushSends_alert (fun _ => "") mutedDb "Obliance" "" 1 none hotEvaluation_alerts
  rw [hoff] at hsent
  revert hsent
  decide +kernel

/-- The failing device has a channel that is not suited; with all types on it is. -/
theorem mutedDb_not_honoured :
    ¬ Honoured (fun _ => "") mutedDb "Obliance" "" 1 none mutedDevice hotEvaluation ∧
      Honoured (fun _ => "") { mutedDb with deviceTypes := fun _ => none } "Obliance" "" 1 none mutedDevice
        hotEvaluation := by
  rw [honoured_iff (fun _ => "") mutedDb "Obliance" "" 1 none hotEvaluation_alerts,
    honoured_iff (fun _ => "") _ "Obliance" "" 1 none hotEvaluation_alerts]
  decide +kernel

end Obliance.Notify
