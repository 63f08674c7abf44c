import HomeCore.Types.Rule

/-! The bus events. Variants that the engine neither matches nor reads beyond
their name are kept without their payload. -/
namespace HomeCore

inductive Event where
  | deviceStateChanged (timestamp : DateTime) (deviceId : String) (deviceName : Option String)
      (previous current : AttrMap) (changed : List String) (change : DeviceChange)
  | deviceAvailabilityChanged (timestamp : DateTime) (deviceId : String)
      (deviceName : Option String) (available : Bool)
  | ruleFired (timestamp : DateTime) (ruleId : Uuid) (ruleName triggerType : String)
  | sceneActivated (timestamp : DateTime) (sceneId sceneName : String)
  | pluginRegistered (timestamp : DateTime) (pluginId : String)
  | pluginOffline (timestamp : DateTime) (pluginId : String)
  | pluginHeartbeat (timestamp : DateTime) (pluginId : String)
  | pluginStatusChanged (timestamp : DateTime) (pluginId status previousStatus : String)
  | pluginCapabilities (timestamp : DateTime) (pluginId : String)
  | pluginAlerts (timestamp : DateTime) (pluginId deviceId : String)
  | deviceNameChanged (timestamp : DateTime) (deviceId previousName currentName : String)
  | deviceAdded (timestamp : DateTime) (device : DeviceState)
  | deviceRemoved (timestamp : DateTime) (deviceId : String)
  | deviceMetadataChanged (timestamp : DateTime) (device : DeviceState)
  | roomChanged (timestamp : DateTime)
  | roomRemoved (timestamp : DateTime) (roomId : Uuid)
  | sceneChanged (timestamp : DateTime)
  | sceneRemoved (timestamp : DateTime) (sceneId : Uuid)
  | ruleChanged (timestamp : DateTime) (rule : Rule)
  | ruleRemoved (timestamp : DateTime) (ruleId : Uuid)
  | deviceSchemaChanged (timestamp : DateTime) (deviceId : String)
  | deviceBatteryLow (timestamp : DateTime) (deviceId : String) (deviceName : Option String)
      (batteryPct thresholdPct : Rat)
  | deviceBatteryRecovered (timestamp : DateTime) (deviceId : String) (deviceName : Option String)
      (batteryPct : Rat)
  | alertRaised (timestamp : DateTime) (alert : Alert) (update : Bool)
  | alertCleared (timestamp : DateTime) (alertId deviceId : String) (alert : Option Alert)
  | alertAcknowledged (timestamp : DateTime) (alert : Alert)
  | mqttMessage (timestamp : DateTime) (topic : String) (payload : List UInt8) (retain : Bool)
  | custom (timestamp : DateTime) (eventType : String) (payload : Json)
  | systemAlert (timestamp : DateTime) (severity : AlertSeverity) (message : String)
  | ruleEvaluationFailed (timestamp : DateTime) (ruleId : String)
  | actionFailed (timestamp : DateTime) (ruleId : String)
  | deviceCommandSent (timestamp : DateTime) (deviceId : String) (command : Json)
  | modeChanged (timestamp : DateTime) (modeId modeName : String) (on : Bool)
  | timerStateChanged (timestamp : DateTime) (timerId : String) (state : String)

end HomeCore
