import Tg2Sip.Authorization
import Tg2Sip.Context
import Tg2Sip.IniReader

/-! `Settings` as it is read from a file, and what `main` does with it until the gateway runs. -/

namespace Tg2Sip.Configuration
open Ini Lib

/-- `std::clamp` -/
def clamp (value low high : Int32) : Int32 := if value < low then low else if high < value then high else value

/-- The data members, `is_loaded_` apart. -/
structure Members where
  consoleMinLevel : Int32
  fileMinLevel : Int32
  logLevel : Int32
  tdlibLogLevel : Int32
  tgcallsLogLevel : Int32
  pjsipLogLevel : Int32
  pjsipLogSipMessages : Bool
  logFolder : Text
  sipPort : UInt32
  idUri : Text
  callbackUri : Text
  publicAddress : Text
  stunServer : Text
  rawPcm : Bool
  sipThreadCount : UInt32
  sipPortRange : UInt32
  apiId : Int32
  apiHash : Text
  dbFolder : Text
  systemLanguageCode : Text
  deviceModel : Text
  systemVersion : Text
  applicationVersion : Text
  udpP2p : Bool
  udpReflector : Bool
  aecEnabled : Bool
  nsEnabled : Bool
  agcEnabled : Bool
  proxyEnabled : Bool
  proxyAddress : Text
  proxyPort : Int32
  proxyUsername : Text
  proxyPassword : Text
  voipProxyEnabled : Bool
  voipProxyAddress : Text
  voipProxyPort : UInt16
  voipProxyUsername : Text
  voipProxyPassword : Text
  extraWaitTime : UInt32
  peerFloodTime : UInt32
  deriving DecidableEq

/-- `static_cast<int>` of a `long`, kept in the range of the log levels. -/
def level (reader : INIReader) (name : String) (default : Int64) : Int32 :=
  clamp (reader.getInteger "logging".toList name.toList default).toInt32 0 6

def Members.read (reader : INIReader) : Members where
  consoleMinLevel := level reader "console_min_level" 0
  fileMinLevel := level reader "file_min_level" 0
  logLevel := level reader "core" 2
  tdlibLogLevel := level reader "tdlib" 3
  tgcallsLogLevel := level reader "tgcalls" 5
  pjsipLogLevel := level reader "pjsip" 2
  pjsipLogSipMessages := reader.getBoolean "logging".toList "sip_messages".toList true
  logFolder := reader.get "logging".toList "log_folder".toList []
  sipPort := Settings.narrow (reader.getInteger "sip".toList "port".toList 0)
  idUri := reader.get "sip".toList "id_uri".toList "sip:localhost".toList
  callbackUri := reader.get "sip".toList "callback_uri".toList []
  publicAddress := reader.get "sip".toList "public_address".toList []
  stunServer := reader.get "sip".toList "stun_server".toList []
  rawPcm := reader.getBoolean "sip".toList "raw_pcm".toList true
  sipThreadCount := Settings.narrow (reader.getInteger "sip".toList "thread_count".toList 1)
  sipPortRange := Settings.narrow (reader.getInteger "sip".toList "port_range".toList 0)
  apiId := (reader.getInteger "telegram".toList "api_id".toList 0).toInt32
  apiHash := reader.get "telegram".toList "api_hash".toList []
  dbFolder := reader.get "telegram".toList "database_folder".toList []
  systemLanguageCode := reader.get "telegram".toList "system_language_code".toList "en-US".toList
  deviceModel := reader.get "telegram".toList "device_model".toList "PC".toList
  systemVersion := reader.get "telegram".toList "system_version".toList "Linux".toList
  applicationVersion := reader.get "telegram".toList "application_version".toList "1.0".toList
  udpP2p := reader.getBoolean "telegram".toList "udp_p2p".toList false
  udpReflector := reader.getBoolean "telegram".toList "udp_reflector".toList true
  aecEnabled := reader.getBoolean "telegram".toList "enable_aec".toList false
  nsEnabled := reader.getBoolean "telegram".toList "enable_ns".toList false
  agcEnabled := reader.getBoolean "telegram".toList "enable_agc".toList false
  proxyEnabled := reader.getBoolean "telegram".toList "use_proxy".toList false
  proxyAddress := reader.get "telegram".toList "proxy_address".toList []
  proxyPort := (reader.getInteger "telegram".toList "proxy_port".toList 0).toInt32
  proxyUsername := reader.get "telegram".toList "proxy_username".toList []
  proxyPassword := reader.get "telegram".toList "proxy_password".toList []
  voipProxyEnabled := reader.getBoolean "telegram".toList "use_voip_proxy".toList false
  voipProxyAddress := reader.get "telegram".toList "voip_proxy_address".toList []
  voipProxyPort := (reader.getInteger "telegram".toList "voip_proxy_port".toList 0).toInt16.toUInt16
  voipProxyUsername := reader.get "telegram".toList "voip_proxy_username".toList []
  voipProxyPassword := reader.get "telegram".toList "voip_proxy_password".toList []
  extraWaitTime := Settings.narrow (reader.getInteger "other".toList "extra_wait_time".toList 30)
  peerFloodTime := Settings.narrow (reader.getInteger "other".toList "peer_flood_time".toList 86400)

/-- The members are not initialized when the file did not open. -/
structure Settings where
  isLoaded : Bool := false
  members : Option Members := none

/-- The constructor. -/
def Settings.read (reader : INIReader) : Settings :=
  if reader.error < 0 then {}
  else
    let members := Members.read reader
    { isLoaded := !(members.apiId == 0 || members.apiHash.isEmpty), members }

/-- What `Gateway` uses of the settings. -/
def Members.gateway (members : Members) : Tg2Sip.Settings where
  callbackUri := String.ofList members.callbackUri
  udpP2p := members.udpP2p
  udpReflector := members.udpReflector
  extraWaitTime := members.extraWaitTime
  peerFloodTime := members.peerFloodTime

/-- The parameters that `init_lib_parameters` sets from the settings; the others are the same each time. -/
structure TdlibParameters where
  useTestDc : Bool := false
  apiId : Int32
  apiHash : Text
  databaseDirectory : Text
  systemLanguageCode : Text
  deviceModel : Text
  systemVersion : Text
  applicationVersion : Text
  useFileDatabase : Bool := false
  useChatInfoDatabase : Bool := true
  useMessageDatabase : Bool := false
  useSecretChats : Bool := false
  deriving DecidableEq

/-- The requests that are made of the settings. -/
inductive Request where
  | setTdlibParameters (parameters : TdlibParameters)
  | addProxy (server : Text) (port : Int32) (username password : Text)
  | disableProxy
  deriving DecidableEq

def initLibParameters (members : Members) : Request := .setTdlibParameters {
  apiId := members.apiId
  apiHash := members.apiHash
  databaseDirectory := members.dbFolder
  systemLanguageCode := members.systemLanguageCode
  deviceModel := members.deviceModel
  systemVersion := members.systemVersion
  applicationVersion := members.applicationVersion }

def initProxy (members : Members) : Request :=
  if members.proxyEnabled then .addProxy members.proxyAddress members.proxyPort members.proxyUsername
    members.proxyPassword
  else .disableProxy

/-- What `main` calls of pjsua2, with what the settings say in its arguments. -/
inductive PjsuaCall where
  | libCreate
  | libInit (msgLogging : Bool) (threadCnt : UInt32) (stunServer : List Text)
  | setNullDev
  | codecEnum
  | codecSetPriority (codecId : Text) (priority : UInt8)
  | transportCreate (port portRange : UInt32) (publicAddress : Text)
  | libStart
  /-- `create` of the account, by `sip::Client::start`. -/
  | create (idUri : Text)
  deriving DecidableEq

/-- The constructor of `sip::Client` makes these calls. The codecs are those of `codecEnum`. -/
def initPjEndpoint (members : Members) (codecs : List Text) : List PjsuaCall :=
  let codecId := if members.rawPcm then "L16/48000/1".toList else "opus/48000/2".toList
  [.libCreate, .libInit members.pjsipLogSipMessages members.sipThreadCount
    (if members.stunServer = [] then [] else [members.stunServer]), .setNullDev, .codecEnum] ++
  codecs.map (fun codec => .codecSetPriority codec (if codec = codecId then 255 else 0)) ++
  [.transportCreate members.sipPort members.sipPortRange members.publicAddress, .libStart]

def logFilePath (logFolder fileName : Text) : Text :=
  if logFolder = [] then fileName
  else if logFolder.getLast? = some '/' then logFolder ++ fileName
  else logFolder ++ '/' :: fileName

/-- What `main` finds outside of the program. -/
structure Host where
  /-- `std::filesystem::exists` -/
  present : Text → Except Exception Bool
  /-- What is read of a file that opens. -/
  files : Text → Option Text
  /-- Whether a log file opens. -/
  logs : Text → Bool
  codecs : List Text
  pjsua : PjsuaCall → Except Exception Unit

/-- `argv` without the name of the program. -/
def resolveConfigPath (arguments : List Text) (present : Text → Except Exception Bool) : Except Exception Text :=
  match arguments with
  | path :: _ => pure path
  | [] => do
    let installed ← present "/etc/tg2sip-webrtc/tg2sip.conf".toList
    pure (if installed then "/etc/tg2sip-webrtc/tg2sip.conf".toList else "tg2sip.conf".toList)

/-- Without their file no loggers are registered, and `spdlog::get` returns null pointers. -/
def initLogging (members : Members) (logs : Text → Bool) : Except Exception Unit :=
  if logs (logFilePath members.logFolder "tg2sip.log".toList) then pure () else throw .undefinedBehaviour

/-- What `main` does until SIP is up. Nothing is returned for settings that are not loaded. -/
def setUp (host : Host) (arguments : List Text) : Except Exception (Option Members) := do
  let path ← resolveConfigPath arguments host.present
  let settings := Settings.read (.ofFile (host.files path))
  match settings.isLoaded, settings.members with
  | true, some members =>
    initLogging members host.logs
    (initPjEndpoint members host.codecs).forM host.pjsua
    host.pjsua (.create members.idUri)
    pure (some members)
  | _, _ => pure none

/-- How `main` ends, or goes on with the gateway. -/
inductive Start where
  /-- `return 1` before anything was started. -/
  | unconfigured
  /-- `return 1`, as the future was not set in time or not to true. -/
  | notSignedOn
  /-- Nothing catches an exception, on this thread or on that of `tg::Client`. -/
  | terminated
  /-- The gateway is constructed with these settings; what `tg::Client` has asked TDLib until then. -/
  | gateway (settings : Tg2Sip.Settings) (asked : List (Option Request))

/-- `main`, with the updates that `tg::Client` processes before `wait_for` returns, and those until `main` goes on.
SIP calls that come in meanwhile only wait in their queue. -/
def start (host : Host) (arguments : List Text) (early later : List Tg.Notice) : Start :=
  match setUp host arguments with
  | .error _ => .terminated
  | .ok none => .unconfigured
  | .ok (some members) =>
    match (Tg.Receiver.initial (initLibParameters members) (initProxy members)).processUpdates early with
    | .error _ => .terminated
    | .ok waited =>
      match waited.processUpdates later with
      | .error _ => .terminated
      | .ok receiver =>
        if waited.isReady.value = some true then .gateway members.gateway receiver.queries else .notSignedOn

end Tg2Sip.Configuration
