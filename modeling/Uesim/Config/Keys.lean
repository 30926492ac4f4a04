import Uesim.Types
import Uesim.Library.Text

/-!
# The keys of the configuration

Every member of the sections of `uesim_config_t` goes by a key: its section and its name there. The members
are strings, numbers of 32 bits, or flags.
-/

namespace Uesim

open Bytes Text

def configMaxStringLen : Nat := 256

inductive ConfigSection where
  | general
  | network
  | ue
  | rrc
  | performance
  | security
  | test
  | pdcp
  | rlc
  | mac
  | nas
  deriving DecidableEq, Repr

inductive StringKey where
  | logFile
  | gnbIp | localIp
  | imsiPrefix | msisdnPrefix | mcc | mnc | imei | apn | apnType
  | keyFile | certFile | caFile
  | reportFile | testSuite
  deriving DecidableEq, Repr

inductive IntKey where
  | numInstances | logLevel | maxLogFileSize | logFileCount
  | gnbNgapPort | gnbGtpuPort | localNgapPort | localGtpuPort | connectionTimeout | keepaliveInterval
  | maxConnections
  | imsiStart | msisdnStart | tac
  | registrationTimeout | establishmentTimeout | reestablishmentTimeout | handoverTimeout
  | rrcMaxRetransmissions | t300Value | t301Value | t302Value | t304Value | t310Value | t311Value
  | n310Value | n311Value
  | pdcpMaxPduSize | discardTimer | statusReportTimer | pdcpCipheringAlgorithm | pdcpIntegrityAlgorithm
  | pdcpMaxRetransmissions | pollingPdu | pollingByte
  | amWindowSize | umWindowSize | pollRetransmitTimer | reassemblyTimer | statusProhibitTimer
  | rlcMaxRetransmissions | bufferSize | rlcMaxPduSize
  | harqProcesses | maxHarqRetransmissions | ttiLength | rachPreambles | rachResponseWindow
  | maxRachTransmissions | schedulingRequests | ulGrants | dlGrants | tbSize | mcs
  | registrationTimer | authenticationTimer | securityTimer | pduSessionTimer | periodicRegistrationTime
  | maxRegistrationAttempts | maxAuthenticationAttempts | nasCipheringAlgorithm | nasIntegrityAlgorithm
  | maxPduSessions
  | threadPoolSize | rxBufferSize | txBufferSize | memoryPoolSize | maxQueueSize | workerThreads
  | ioThreads | cpuAffinityMask | ioPriority
  | tlsVersion
  | testDuration | stressTestDuration | stressTestConcurrency
  deriving DecidableEq, Repr

inductive BoolKey where
  | verbose | debug | enableSyslog
  | enableIpv6
  | randomImei
  | enableRegistration | enableEstablishment | enableReestablishment | enableHandover
  | enableCiphering | enableIntegrity
  | enableArq | enableSegmentation
  | enableHarq | enableRach
  | enablePeriodicRegistration | enable5gFeatures | enableSms | enableVoice
  | useMemoryPool | enableThreadAffinity | enableAsyncIo
  | stackProtection | aslr | secureFlags | enableEncryption | enableIntegrityProtection
  | enableCertificateValidation | enableTls | enablePki
  | enableTests | enablePerformanceTests | enableStressTests | enableComplianceTests
  | generateTestReport | enableCoverage
  deriving DecidableEq, Repr

def StringKey.configSection : StringKey → ConfigSection
  | .logFile => .general
  | .gnbIp | .localIp => .network
  | .imsiPrefix | .msisdnPrefix | .mcc | .mnc | .imei | .apn | .apnType => .ue
  | .keyFile | .certFile | .caFile => .security
  | .reportFile | .testSuite => .test

def IntKey.configSection : IntKey → ConfigSection
  | .numInstances | .logLevel | .maxLogFileSize | .logFileCount => .general
  | .gnbNgapPort | .gnbGtpuPort | .localNgapPort | .localGtpuPort | .connectionTimeout
  | .keepaliveInterval | .maxConnections => .network
  | .imsiStart | .msisdnStart | .tac => .ue
  | .registrationTimeout | .establishmentTimeout | .reestablishmentTimeout | .handoverTimeout
  | .rrcMaxRetransmissions | .t300Value | .t301Value | .t302Value | .t304Value | .t310Value | .t311Value
  | .n310Value | .n311Value => .rrc
  | .pdcpMaxPduSize | .discardTimer | .statusReportTimer | .pdcpCipheringAlgorithm
  | .pdcpIntegrityAlgorithm | .pdcpMaxRetransmissions | .pollingPdu | .pollingByte => .pdcp
  | .amWindowSize | .umWindowSize | .pollRetransmitTimer | .reassemblyTimer | .statusProhibitTimer
  | .rlcMaxRetransmissions | .bufferSize | .rlcMaxPduSize => .rlc
  | .harqProcesses | .maxHarqRetransmissions | .ttiLength | .rachPreambles | .rachResponseWindow
  | .maxRachTransmissions | .schedulingRequests | .ulGrants | .dlGrants | .tbSize | .mcs => .mac
  | .registrationTimer | .authenticationTimer | .securityTimer | .pduSessionTimer
  | .periodicRegistrationTime | .maxRegistrationAttempts | .maxAuthenticationAttempts
  | .nasCipheringAlgorithm | .nasIntegrityAlgorithm | .maxPduSessions => .nas
  | .threadPoolSize | .rxBufferSize | .txBufferSize | .memoryPoolSize | .maxQueueSize | .workerThreads
  | .ioThreads | .cpuAffinityMask | .ioPriority => .performance
  | .tlsVersion => .security
  | .testDuration | .stressTestDuration | .stressTestConcurrency => .test

def BoolKey.configSection : BoolKey → ConfigSection
  | .verbose | .debug | .enableSyslog => .general
  | .enableIpv6 => .network
  | .randomImei => .ue
  | .enableRegistration | .enableEstablishment | .enableReestablishment | .enableHandover => .rrc
  | .enableCiphering | .enableIntegrity => .pdcp
  | .enableArq | .enableSegmentation => .rlc
  | .enableHarq | .enableRach => .mac
  | .enablePeriodicRegistration | .enable5gFeatures | .enableSms | .enableVoice => .nas
  | .useMemoryPool | .enableThreadAffinity | .enableAsyncIo => .performance
  | .stackProtection | .aslr | .secureFlags | .enableEncryption | .enableIntegrityProtection
  | .enableCertificateValidation | .enableTls | .enablePki => .security
  | .enableTests | .enablePerformanceTests | .enableStressTests | .enableComplianceTests
  | .generateTestReport | .enableCoverage => .test

def StringKey.name : StringKey → String
  | .logFile => "log_file"
  | .gnbIp => "gnb_ip"
  | .localIp => "local_ip"
  | .imsiPrefix => "imsi_prefix"
  | .msisdnPrefix => "msisdn_prefix"
  | .mcc => "mcc"
  | .mnc => "mnc"
  | .imei => "imei"
  | .apn => "apn"
  | .apnType => "apn_type"
  | .keyFile => "key_file"
  | .certFile => "cert_file"
  | .caFile => "ca_file"
  | .reportFile => "report_file"
  | .testSuite => "test_suite"

def IntKey.name : IntKey → String
  | .numInstances => "num_instances"
  | .logLevel => "log_level"
  | .maxLogFileSize => "max_log_file_size"
  | .logFileCount => "log_file_count"
  | .gnbNgapPort => "gnb_ngap_port"
  | .gnbGtpuPort => "gnb_gtpu_port"
  | .localNgapPort => "local_ngap_port"
  | .localGtpuPort => "local_gtpu_port"
  | .connectionTimeout => "connection_timeout"
  | .keepaliveInterval => "keepalive_interval"
  | .maxConnections => "max_connections"
  | .imsiStart => "imsi_start"
  | .msisdnStart => "msisdn_start"
  | .tac => "tac"
  | .registrationTimeout => "registration_timeout"
  | .establishmentTimeout => "establishment_timeout"
  | .reestablishmentTimeout => "reestablishment_timeout"
  | .handoverTimeout => "handover_timeout"
  | .rrcMaxRetransmissions => "max_retransmissions"
  | .t300Value => "t300_value"
  | .t301Value => "t301_value"
  | .t302Value => "t302_value"
  | .t304Value => "t304_value"
  | .t310Value => "t310_value"
  | .t311Value => "t311_value"
  | .n310Value => "n310_value"
  | .n311Value => "n311_value"
  | .pdcpMaxPduSize => "max_pdu_size"
  | .discardTimer => "discard_timer"
  | .statusReportTimer => "status_report_timer"
  | .pdcpCipheringAlgorithm => "ciphering_algorithm"
  | .pdcpIntegrityAlgorithm => "integrity_algorithm"
  | .pdcpMaxRetransmissions => "max_retransmissions"
  | .pollingPdu => "polling_pdu"
  | .pollingByte => "polling_byte"
  | .amWindowSize => "am_window_size"
  | .umWindowSize => "um_window_size"
  | .pollRetransmitTimer => "poll_retransmit_timer"
  | .reassemblyTimer => "reassembly_timer"
  | .statusProhibitTimer => "status_prohibit_timer"
  | .rlcMaxRetransmissions => "max_retransmissions"
  | .bufferSize => "buffer_size"
  | .rlcMaxPduSize => "max_pdu_size"
  | .harqProcesses => "harq_processes"
  | .maxHarqRetransmissions => "max_harq_retransmissions"
  | .ttiLength => "tti_length"
  | .rachPreambles => "rach_preambles"
  | .rachResponseWindow => "rach_response_window"
  | .maxRachTransmissions => "max_rach_transmissions"
  | .schedulingRequests => "scheduling_requests"
  | .ulGrants => "ul_grants"
  | .dlGrants => "dl_grants"
  | .tbSize => "tb_size"
  | .mcs => "mcs"
  | .registrationTimer => "registration_timer"
  | .authenticationTimer => "authentication_timer"
  | .securityTimer => "security_timer"
  | .pduSessionTimer => "pdu_session_timer"
  | .periodicRegistrationTime => "periodic_registration_time"
  | .maxRegistrationAttempts => "max_registration_attempts"
  | .maxAuthenticationAttempts => "max_authentication_attempts"
  | .nasCipheringAlgorithm => "ciphering_algorithm"
  | .nasIntegrityAlgorithm => "integrity_algorithm"
  | .maxPduSessions => "max_pdu_sessions"
  | .threadPoolSize => "thread_pool_size"
  | .rxBufferSize => "rx_buffer_size"
  | .txBufferSize => "tx_buffer_size"
  | .memoryPoolSize => "memory_pool_size"
  | .maxQueueSize => "max_queue_size"
  | .workerThreads => "worker_threads"
  | .ioThreads => "io_threads"
  | .cpuAffinityMask => "cpu_affinity_mask"
  | .ioPriority => "io_priority"
  | .tlsVersion => "tls_version"
  | .testDuration => "test_duration"
  | .stressTestDuration => "stress_test_duration"
  | .stressTestConcurrency => "stress_test_concurrency"

def BoolKey.name : BoolKey → String
  | .verbose => "verbose"
  | .debug => "debug"
  | .enableSyslog => "enable_syslog"
  | .enableIpv6 => "enable_ipv6"
  | .randomImei => "random_imei"
  | .enableRegistration => "enable_registration"
  | .enableEstablishment => "enable_establishment"
  | .enableReestablishment => "enable_reestablishment"
  | .enableHandover => "enable_handover"
  | .enableCiphering => "enable_ciphering"
  | .enableIntegrity => "enable_integrity"
  | .enableArq => "enable_arq"
  | .enableSegmentation => "enable_segmentation"
  | .enableHarq => "enable_harq"
  | .enableRach => "enable_rach"
  | .enablePeriodicRegistration => "enable_periodic_registration"
  | .enable5gFeatures => "enable_5g_features"
  | .enableSms => "enable_sms"
  | .enableVoice => "enable_voice"
  | .useMemoryPool => "use_memory_pool"
  | .enableThreadAffinity => "enable_thread_affinity"
  | .enableAsyncIo => "enable_async_io"
  | .stackProtection => "stack_protection"
  | .aslr => "aslr"
  | .secureFlags => "secure_flags"
  | .enableEncryption => "enable_encryption"
  | .enableIntegrityProtection => "enable_integrity_protection"
  | .enableCertificateValidation => "enable_certificate_validation"
  | .enableTls => "enable_tls"
  | .enablePki => "enable_pki"
  | .enableTests => "enable_tests"
  | .enablePerformanceTests => "enable_performance_tests"
  | .enableStressTests => "enable_stress_tests"
  | .enableComplianceTests => "enable_compliance_tests"
  | .generateTestReport => "generate_test_report"
  | .enableCoverage => "enable_coverage"

/-- The keys of `config_set_string`, in the order in which it looks for them. -/
def ConfigSection.stringKeys : ConfigSection → List StringKey
  | .general => [.logFile]
  | .network => [.gnbIp, .localIp]
  | .ue => [.imsiPrefix, .msisdnPrefix, .mcc, .mnc, .imei, .apn, .apnType]
  | .security => [.keyFile, .certFile, .caFile]
  | .test => [.reportFile, .testSuite]
  | .rrc | .performance | .pdcp | .rlc | .mac | .nas => []

/-- The keys of `config_set_int`. -/
def ConfigSection.intKeys : ConfigSection → List IntKey
  | .general => [.numInstances, .logLevel, .maxLogFileSize, .logFileCount]
  | .network => [.gnbNgapPort, .gnbGtpuPort, .localNgapPort, .localGtpuPort, .connectionTimeout,
      .keepaliveInterval, .maxConnections]
  | .ue => [.imsiStart, .msisdnStart, .tac]
  | .rrc => [.registrationTimeout, .establishmentTimeout, .reestablishmentTimeout, .handoverTimeout,
      .rrcMaxRetransmissions, .t300Value, .t301Value, .t302Value, .t304Value, .t310Value, .t311Value,
      .n310Value, .n311Value]
  | .pdcp => [.pdcpMaxPduSize, .discardTimer, .statusReportTimer, .pdcpCipheringAlgorithm,
      .pdcpIntegrityAlgorithm, .pdcpMaxRetransmissions, .pollingPdu, .pollingByte]
  | .rlc => [.amWindowSize, .umWindowSize, .pollRetransmitTimer, .reassemblyTimer, .statusProhibitTimer,
      .rlcMaxRetransmissions, .bufferSize, .rlcMaxPduSize]
  | .mac => [.harqProcesses, .maxHarqRetransmissions, .ttiLength, .rachPreambles, .rachResponseWindow,
      .maxRachTransmissions, .schedulingRequests, .ulGrants, .dlGrants, .tbSize, .mcs]
  | .nas => [.registrationTimer, .authenticationTimer, .securityTimer, .pduSessionTimer,
      .periodicRegistrationTime, .maxRegistrationAttempts, .maxAuthenticationAttempts,
      .nasCipheringAlgorithm, .nasIntegrityAlgorithm, .maxPduSessions]
  | .performance => [.threadPoolSize, .rxBufferSize, .txBufferSize, .memoryPoolSize, .maxQueueSize,
      .workerThreads, .ioThreads, .cpuAffinityMask, .ioPriority]
  | .security => [.tlsVersion]
  | .test => [.testDuration, .stressTestDuration, .stressTestConcurrency]

/-- The keys of `config_set_bool`. -/
def ConfigSection.boolKeys : ConfigSection → List BoolKey
  | .general => [.verbose, .debug, .enableSyslog]
  | .network => [.enableIpv6]
  | .ue => [.randomImei]
  | .rrc => [.enableRegistration, .enableEstablishment, .enableReestablishment, .enableHandover]
  | .pdcp => [.enableCiphering, .enableIntegrity]
  | .rlc => [.enableArq, .enableSegmentation]
  | .mac => [.enableHarq, .enableRach]
  | .nas => [.enablePeriodicRegistration, .enable5gFeatures, .enableSms, .enableVoice]
  | .performance => [.useMemoryPool, .enableThreadAffinity, .enableAsyncIo]
  | .security => [.stackProtection, .aslr, .secureFlags, .enableEncryption, .enableIntegrityProtection,
      .enableCertificateValidation, .enableTls, .enablePki]
  | .test => [.enableTests, .enablePerformanceTests, .enableStressTests, .enableComplianceTests,
      .generateTestReport, .enableCoverage]

/-- The sections of `uesim_config_t`: what every key stands for. -/
@[ext]
structure Config where
  string : StringKey → List Byte
  int : IntKey → Word
  bool : BoolKey → Bool

def configLoadDefault : Config where
  string
    | .logFile => text "/var/log/uesim/uesim.log"
    | .gnbIp => text "127.0.0.1"
    | .localIp => text "0.0.0.0"
    | .imsiPrefix => text "00101"
    | .msisdnPrefix => text "12345"
    | .mcc => text "001"
    | .mnc => text "01"
    | .imei => text ""
    | .apn => text "internet"
    | .apnType => text "default"
    | .keyFile => text "/etc/uesim/keys.pem"
    | .certFile => text "/etc/uesim/cert.pem"
    | .caFile => text "/etc/uesim/ca.pem"
    | .reportFile => text "/var/log/uesim/test_report.txt"
    | .testSuite => text "default"
  int
    | .numInstances => 1
    | .logLevel => 2
    | .maxLogFileSize => 10
    | .logFileCount => 5
    | .gnbNgapPort => 38412
    | .gnbGtpuPort => 2152
    | .localNgapPort => 0
    | .localGtpuPort => 0
    | .connectionTimeout => 30
    | .keepaliveInterval => 30
    | .maxConnections => 100
    | .imsiStart => 1000000000
    | .msisdnStart => 100000
    | .tac => 1
    | .registrationTimeout => 30
    | .establishmentTimeout => 30
    | .reestablishmentTimeout => 30
    | .handoverTimeout => 30
    | .rrcMaxRetransmissions => 5
    | .t300Value => 1000
    | .t301Value => 1000
    | .t302Value => 1000
    | .t304Value => 1000
    | .t310Value => 1000
    | .t311Value => 1000
    | .n310Value => 20
    | .n311Value => 1
    | .pdcpMaxPduSize => 8192
    | .discardTimer => 500
    | .statusReportTimer => 1000
    | .pdcpCipheringAlgorithm => 2
    | .pdcpIntegrityAlgorithm => 2
    | .pdcpMaxRetransmissions => 5
    | .pollingPdu => 1000
    | .pollingByte => 1000000
    | .amWindowSize => 512
    | .umWindowSize => 256
    | .pollRetransmitTimer => 50
    | .reassemblyTimer => 100
    | .statusProhibitTimer => 25
    | .rlcMaxRetransmissions => 5
    | .bufferSize => 65536
    | .rlcMaxPduSize => 8192
    | .harqProcesses => 16
    | .maxHarqRetransmissions => 4
    | .ttiLength => 1
    | .rachPreambles => 64
    | .rachResponseWindow => 10
    | .maxRachTransmissions => 7
    | .schedulingRequests => 32
    | .ulGrants => 32
    | .dlGrants => 32
    | .tbSize => 1024
    | .mcs => 10
    | .registrationTimer => 30
    | .authenticationTimer => 30
    | .securityTimer => 30
    | .pduSessionTimer => 30
    | .periodicRegistrationTime => 540
    | .maxRegistrationAttempts => 5
    | .maxAuthenticationAttempts => 5
    | .nasCipheringAlgorithm => 2
    | .nasIntegrityAlgorithm => 2
    | .maxPduSessions => 16
    | .threadPoolSize => 0
    | .rxBufferSize => 65536
    | .txBufferSize => 65536
    | .memoryPoolSize => 67108864
    | .maxQueueSize => 1000
    | .workerThreads => 4
    | .ioThreads => 2
    | .cpuAffinityMask => 0
    | .ioPriority => 0
    | .tlsVersion => 12
    | .testDuration => 60
    | .stressTestDuration => 300
    | .stressTestConcurrency => 100
  bool
    | .verbose => false
    | .debug => false
    | .enableSyslog => false
    | .enableIpv6 => false
    | .randomImei => true
    | .enableRegistration => true
    | .enableEstablishment => true
    | .enableReestablishment => true
    | .enableHandover => true
    | .enableCiphering => true
    | .enableIntegrity => true
    | .enableArq => true
    | .enableSegmentation => true
    | .enableHarq => true
    | .enableRach => true
    | .enablePeriodicRegistration => true
    | .enable5gFeatures => true
    | .enableSms => false
    | .enableVoice => false
    | .useMemoryPool => true
    | .enableThreadAffinity => false
    | .enableAsyncIo => true
    | .stackProtection => true
    | .aslr => true
    | .secureFlags => true
    | .enableEncryption => true
    | .enableIntegrityProtection => true
    | .enableCertificateValidation => true
    | .enableTls => false
    | .enablePki => false
    | .enableTests => false
    | .enablePerformanceTests => false
    | .enableStressTests => false
    | .enableComplianceTests => false
    | .generateTestReport => true
    | .enableCoverage => false

/-! ### Validation -/

/-- What `config_validate` asks of a number: a smallest and, for some, a largest value. -/
structure ConfigCheck where
  key : IntKey
  low : Int
  high : Option Int

/-- A value that is too small or too large is refused. -/
def ConfigCheck.run (config : Config) (check : ConfigCheck) : Except UesimError Unit :=
  let value := (config.int check.key).toInt
  if value < check.low ∨ ∃ high ∈ check.high, high < value then .error .invalidParam else .ok ()

def runChecks (config : Config) : List ConfigCheck → Except UesimError Unit
  | [] => .ok ()
  | check :: checks => check.run config >>= fun _ => runChecks config checks

def configValidateGeneral : List ConfigCheck :=
  [⟨.logLevel, 0, some 4⟩, ⟨.numInstances, 1, some 1024⟩, ⟨.maxLogFileSize, 1, none⟩,
    ⟨.logFileCount, 1, none⟩]

def configValidateNetwork : List ConfigCheck :=
  [⟨.gnbNgapPort, 1, some 65535⟩, ⟨.gnbGtpuPort, 1, some 65535⟩, ⟨.localNgapPort, 0, some 65535⟩,
    ⟨.localGtpuPort, 0, some 65535⟩, ⟨.connectionTimeout, 1, none⟩, ⟨.keepaliveInterval, 1, none⟩,
    ⟨.maxConnections, 1, none⟩]

def configValidateUe (config : Config) : Except UesimError Unit :=
  if (config.string .mcc).length ≠ 3 then .error .invalidParam
  else if (config.string .mnc).length ≠ 2 ∧ (config.string .mnc).length ≠ 3 then .error .invalidParam
  else if config.int .tac = 0 then .error .invalidParam
  else .ok ()

def configValidateRrc : List ConfigCheck :=
  [⟨.registrationTimeout, 1, none⟩, ⟨.establishmentTimeout, 1, none⟩, ⟨.reestablishmentTimeout, 1, none⟩,
    ⟨.handoverTimeout, 1, none⟩, ⟨.rrcMaxRetransmissions, 1, none⟩, ⟨.t300Value, 1, none⟩,
    ⟨.t301Value, 1, none⟩, ⟨.t302Value, 1, none⟩, ⟨.t304Value, 1, none⟩, ⟨.t310Value, 1, none⟩,
    ⟨.t311Value, 1, none⟩, ⟨.n310Value, 1, none⟩, ⟨.n311Value, 1, none⟩]

def configValidatePdcp : List ConfigCheck :=
  [⟨.pdcpMaxPduSize, 1, none⟩, ⟨.discardTimer, 1, none⟩, ⟨.statusReportTimer, 1, none⟩,
    ⟨.pdcpCipheringAlgorithm, 0, some 3⟩, ⟨.pdcpIntegrityAlgorithm, 0, some 3⟩,
    ⟨.pdcpMaxRetransmissions, 1, none⟩, ⟨.pollingPdu, 1, none⟩, ⟨.pollingByte, 1, none⟩]

def configValidateRlc : List ConfigCheck :=
  [⟨.amWindowSize, 1, none⟩, ⟨.umWindowSize, 1, none⟩, ⟨.pollRetransmitTimer, 1, none⟩,
    ⟨.reassemblyTimer, 1, none⟩, ⟨.statusProhibitTimer, 1, none⟩, ⟨.rlcMaxRetransmissions, 1, none⟩,
    ⟨.bufferSize, 1, none⟩, ⟨.rlcMaxPduSize, 1, none⟩]

def configValidateMac : List ConfigCheck :=
  [⟨.harqProcesses, 1, some 16⟩, ⟨.maxHarqRetransmissions, 1, none⟩, ⟨.ttiLength, 1, none⟩,
    ⟨.rachPreambles, 1, none⟩, ⟨.rachResponseWindow, 1, none⟩, ⟨.maxRachTransmissions, 1, none⟩,
    ⟨.schedulingRequests, 1, none⟩, ⟨.ulGrants, 1, none⟩, ⟨.dlGrants, 1, none⟩, ⟨.tbSize, 1, none⟩,
    ⟨.mcs, 0, some 28⟩]

def configValidateNas : List ConfigCheck :=
  [⟨.registrationTimer, 1, none⟩, ⟨.authenticationTimer, 1, none⟩, ⟨.securityTimer, 1, none⟩,
    ⟨.pduSessionTimer, 1, none⟩, ⟨.periodicRegistrationTime, 1, none⟩, ⟨.maxRegistrationAttempts, 1, none⟩,
    ⟨.maxAuthenticationAttempts, 1, none⟩, ⟨.nasCipheringAlgorithm, 0, some 3⟩,
    ⟨.nasIntegrityAlgorithm, 0, some 3⟩, ⟨.maxPduSessions, 1, some 16⟩]

/-- Nothing is asked of `thread_pool_size`. -/
def configValidatePerformance : List ConfigCheck :=
  [⟨.rxBufferSize, 1, none⟩, ⟨.txBufferSize, 1, none⟩, ⟨.memoryPoolSize, 1, none⟩, ⟨.maxQueueSize, 1, none⟩,
    ⟨.workerThreads, 0, none⟩, ⟨.ioThreads, 0, none⟩, ⟨.cpuAffinityMask, 0, none⟩, ⟨.ioPriority, 0, some 7⟩]

def configValidateSecurity : List ConfigCheck := [⟨.tlsVersion, 12, some 13⟩]

def configValidateTest : List ConfigCheck :=
  [⟨.testDuration, 1, none⟩, ⟨.stressTestDuration, 1, none⟩, ⟨.stressTestConcurrency, 1, none⟩]

def configValidate (config : Config) : Except UesimError Unit := do
  runChecks config configValidateGeneral
  runChecks config configValidateNetwork
  configValidateUe config
  runChecks config configValidateRrc
  runChecks config configValidatePdcp
  runChecks config configValidateRlc
  runChecks config configValidateMac
  runChecks config configValidateNas
  runChecks config configValidatePerformance
  runChecks config configValidateSecurity
  runChecks config configValidateTest

end Uesim
