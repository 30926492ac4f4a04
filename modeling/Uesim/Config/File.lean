import Uesim.Config.Keys

/-!
# The configuration file

`config_write_file` writes one line for every key, and `config_parse_file` guesses from the value of a line
whether a flag, a number or a string is to be set.
-/

namespace Uesim

open Bytes Text

def ConfigSection.name : ConfigSection → String
  | .general => "general"
  | .network => "network"
  | .ue => "ue"
  | .rrc => "rrc"
  | .performance => "performance"
  | .security => "security"
  | .test => "test"
  | .pdcp => "pdcp"
  | .rlc => "rlc"
  | .mac => "mac"
  | .nas => "nas"

/-- The sections in the order of the file. -/
def configSections : List ConfigSection :=
  [.general, .network, .ue, .rrc, .pdcp, .rlc, .mac, .nas, .performance, .security, .test]

/-! ### Setting a value by its key -/

namespace Config

def setString (config : Config) (key : StringKey) (value : List Byte) : Config :=
  { config with string := Function.update config.string key value }

def setInt (config : Config) (key : IntKey) (value : Word) : Config :=
  { config with int := Function.update config.int key value }

def setBool (config : Config) (key : BoolKey) (value : Bool) : Config :=
  { config with bool := Function.update config.bool key value }

end Config

def StringKey.capacity : StringKey → Nat
  | .mcc | .mnc => 8
  | _ => configMaxStringLen

def ConfigSection.stringKey (current : ConfigSection) (key : List Byte) : Option StringKey :=
  current.stringKeys.find? fun k => eqIgnoreCase key (text k.name)

def ConfigSection.intKey (current : ConfigSection) (key : List Byte) : Option IntKey :=
  current.intKeys.find? fun k => eqIgnoreCase key (text k.name)

def ConfigSection.boolKey (current : ConfigSection) (key : List Byte) : Option BoolKey :=
  current.boolKeys.find? fun k => eqIgnoreCase key (text k.name)

/-- A section without strings is an error, a key that the section does not have is none. -/
def configSetString (config : Config) (current : ConfigSection) (key value : List Byte) :
    Except UesimError Config :=
  if current.stringKeys = [] then .error .invalidParam
  else
    match current.stringKey key with
    | some k => .ok (config.setString k (value.take (k.capacity - 1)))
    | none => .ok config

def configSetInt (config : Config) (current : ConfigSection) (key : List Byte) (value : Word) :
    Except UesimError Config :=
  match current.intKey key with
  | some k => .ok (config.setInt k value)
  | none => .ok config

def configSetBool (config : Config) (current : ConfigSection) (key : List Byte) (value : Bool) :
    Except UesimError Config :=
  match current.boolKey key with
  | some k => .ok (config.setBool k value)
  | none => .ok config

/-! ### Reading -/

/-- `atoi` of digits. What it makes of a number that is no `int` is left open by the language. -/
def atoi (overflow : Nat → Word) (digits : List Byte) : Word :=
  if decimalValue digits < 2 ^ 31 then BitVec.ofNat 32 (decimalValue digits)
  else overflow (decimalValue digits)

def isBoolText (value : List Byte) : Bool :=
  eqIgnoreCase value (text "true") || eqIgnoreCase value (text "false")

def isIntText (value : List Byte) : Bool := (value.takeWhile isDigit).length = value.length

/-- What the setters answer is not looked at. -/
def configSetValue (overflow : Nat → Word) (config : Config) (current : ConfigSection)
    (key value : List Byte) : Config :=
  if isBoolText value then
    (configSetBool config current key (eqIgnoreCase value (text "true"))).toOption.getD config
  else if isIntText value then
    (configSetInt config current key (atoi overflow value)).toOption.getD config
  else (configSetString config current key value).toOption.getD config

/-- One turn of the loop of `config_parse_file`. -/
def configParseLine (overflow : Nat → Word) (state : Config × ConfigSection) (line : List Byte) :
    Config × ConfigSection :=
  let start := strip line
  if start = [] then state
  else if start.head? = some (byte '[') then
    if byte ']' ∈ start then
      let sectionName := start.tail.takeWhile (· ≠ byte ']')
      (state.1, (configSections.find? fun s => eqIgnoreCase sectionName (text s.name)).getD state.2)
    else state
  else if byte '=' ∈ start then
    (configSetValue overflow state.1 state.2 (keyOf start) (valueOf start), state.2)
  else state

def configParseFile (overflow : Nat → Word) (config : Config) (file : List Byte) : Config :=
  ((fgetsLines 1024 [] file).foldl (configParseLine overflow) (config, .general)).1

/-! ### Writing -/

inductive ConfigItem where
  | string (key : StringKey)
  | int (key : IntKey)
  | bool (key : BoolKey)
  deriving DecidableEq, Repr

/-- The lines of a section, in the order of `config_write_file`. -/
def ConfigSection.items : ConfigSection → List ConfigItem
  | .general => [.int .numInstances, .int .logLevel, .bool .verbose, .bool .debug, .string .logFile,
      .bool .enableSyslog, .int .maxLogFileSize, .int .logFileCount]
  | .network => [.string .gnbIp, .int .gnbNgapPort, .int .gnbGtpuPort, .string .localIp, .int .localNgapPort,
      .int .localGtpuPort, .int .connectionTimeout, .int .keepaliveInterval, .bool .enableIpv6,
      .int .maxConnections]
  | .ue => [.string .imsiPrefix, .int .imsiStart, .string .msisdnPrefix, .int .msisdnStart, .int .tac,
      .string .mcc, .string .mnc, .string .imei, .bool .randomImei, .string .apn, .string .apnType]
  | .rrc => [.int .registrationTimeout, .int .establishmentTimeout, .int .reestablishmentTimeout,
      .int .handoverTimeout, .bool .enableRegistration, .bool .enableEstablishment,
      .bool .enableReestablishment, .bool .enableHandover, .int .rrcMaxRetransmissions, .int .t300Value,
      .int .t301Value, .int .t302Value, .int .t304Value, .int .t310Value, .int .t311Value,
      .int .n310Value, .int .n311Value]
  | .pdcp => [.int .pdcpMaxPduSize, .int .discardTimer, .int .statusReportTimer, .int .pdcpCipheringAlgorithm,
      .int .pdcpIntegrityAlgorithm, .bool .enableCiphering, .bool .enableIntegrity,
      .int .pdcpMaxRetransmissions, .int .pollingPdu, .int .pollingByte]
  | .rlc => [.int .amWindowSize, .int .umWindowSize, .int .pollRetransmitTimer, .int .reassemblyTimer,
      .int .statusProhibitTimer, .int .rlcMaxRetransmissions, .bool .enableArq, .int .bufferSize,
      .int .rlcMaxPduSize, .bool .enableSegmentation]
  | .mac => [.int .harqProcesses, .int .maxHarqRetransmissions, .int .ttiLength, .int .rachPreambles,
      .int .rachResponseWindow, .int .maxRachTransmissions, .int .schedulingRequests, .int .ulGrants,
      .int .dlGrants, .bool .enableHarq, .bool .enableRach, .int .tbSize, .int .mcs]
  | .nas => [.int .registrationTimer, .int .authenticationTimer, .int .securityTimer, .int .pduSessionTimer,
      .bool .enablePeriodicRegistration, .int .periodicRegistrationTime, .int .maxRegistrationAttempts,
      .int .maxAuthenticationAttempts, .int .nasCipheringAlgorithm, .int .nasIntegrityAlgorithm,
      .bool .enable5gFeatures, .int .maxPduSessions, .bool .enableSms, .bool .enableVoice]
  | .performance => [.int .threadPoolSize, .int .rxBufferSize, .int .txBufferSize, .int .memoryPoolSize,
      .bool .useMemoryPool, .int .maxQueueSize, .int .workerThreads, .int .ioThreads,
      .bool .enableThreadAffinity, .int .cpuAffinityMask, .bool .enableAsyncIo, .int .ioPriority]
  | .security => [.bool .stackProtection, .bool .aslr, .bool .secureFlags, .bool .enableEncryption,
      .bool .enableIntegrityProtection, .string .keyFile, .bool .enableCertificateValidation,
      .string .certFile, .string .caFile, .bool .enableTls, .int .tlsVersion, .bool .enablePki]
  | .test => [.bool .enableTests, .int .testDuration, .string .reportFile, .bool .enablePerformanceTests,
      .bool .enableStressTests, .int .stressTestDuration, .int .stressTestConcurrency,
      .bool .enableComplianceTests, .string .testSuite, .bool .generateTestReport, .bool .enableCoverage]

/-- The keys that are printed with `%u`. -/
def IntKey.Unsigned (key : IntKey) : Prop := key = .imsiStart ∨ key = .msisdnStart ∨ key = .tac

instance (key : IntKey) : Decidable key.Unsigned :=
  inferInstanceAs (Decidable (_ ∨ _ ∨ _))

def intText (key : IntKey) (value : Word) : List Byte :=
  if key.Unsigned then decimal value.toNat
  else if 0 ≤ value.toInt then decimal value.toInt.toNat
  else byte '-' :: decimal (-value.toInt).toNat

namespace ConfigItem

def name : ConfigItem → String
  | .string key => key.name
  | .int key => key.name
  | .bool key => key.name

def valueText (config : Config) : ConfigItem → List Byte
  | .string key => config.string key
  | .int key => intText key (config.int key)
  | .bool key => text (if config.bool key then "true" else "false")

def line (config : Config) (item : ConfigItem) : List Byte :=
  text item.name ++ text " = " ++ item.valueText config ++ [byte '\n']

end ConfigItem

def ConfigSection.header (current : ConfigSection) : List Byte :=
  text "[" ++ text current.name ++ text "]" ++ [byte '\n']

def ConfigSection.lines (config : Config) (current : ConfigSection) : List (List Byte) :=
  current.header :: current.items.map (·.line config)

/-- The lines of the file: a comment, and the sections with an empty line before each of them. -/
def configLines (config : Config) : List (List Byte) :=
  (text "# 5G UE Simulation Configuration File" ++ [byte '\n']) ::
    configSections.flatMap fun current => [byte '\n'] :: current.lines config

def configWriteFile (config : Config) : List Byte := (configLines config).flatten

end Uesim
