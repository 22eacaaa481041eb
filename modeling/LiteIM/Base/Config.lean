/-
# Configuration

The settings of the server and the reader of configuration files. A file is read line by line
into a table of texts, in which a later line replaces an earlier one with the same key. Then
the table is visited in whatever order it has, and each text is written to the field that its
key names.

A field is written as soon as its text is accepted. When a later key fails, the fields before
it keep what they were given.
-/

import LiteIM.Base.Status
import LiteIM.Foundation.Decimal
import Mathlib.Data.List.AList

namespace LiteIM

open Foundation Status

structure MySqlConfig where
  host : Bytes := literal "127.0.0.1"
  port : UInt16 := 33060
  user : Bytes := literal "liteim"
  password : Bytes := literal "6"
  database : Bytes := literal "liteim"
  poolSize : UInt32 := 4
  deriving DecidableEq, Repr

structure RedisConfig where
  host : Bytes := literal "127.0.0.1"
  port : UInt16 := 63790
  password : Bytes := literal "6"
  db : UInt32 := 0
  poolSize : UInt32 := 4
  deriving DecidableEq, Repr

structure QtClientConfig where
  serverHost : Bytes := literal "127.0.0.1"
  serverPort : UInt16 := 9000
  deriving DecidableEq, Repr

structure Config where
  serverHost : Bytes := literal "0.0.0.0"
  serverPort : UInt16 := 9000
  ioThreads : UInt32 := 4
  businessThreads : UInt32 := 4
  businessQueueCapacity : UInt32 := 1024
  sessionOutputHighWaterMark : Nat := 4 * 1024 * 1024
  logLevel : Bytes := literal "info"
  mysql : MySqlConfig := {}
  redis : RedisConfig := {}
  qtClient : QtClientConfig := {}
  deriving DecidableEq, Repr

/-- The keys that `loadFromFile` knows. -/
inductive ConfigKey where
  | serverHost
  | serverPort
  | ioThreads
  | businessThreads
  | businessQueueCapacity
  | outputHighWaterMarkBytes
  | logLevel
  | mysqlHost
  | mysqlPort
  | mysqlUser
  | mysqlPassword
  | mysqlDatabase
  | mysqlPoolSize
  | redisHost
  | redisPort
  | redisPassword
  | redisDb
  | redisPoolSize
  | qtServerHost
  | qtServerPort
  deriving DecidableEq, Repr

namespace ConfigKey

/-- How a key is written in a file. -/
def name : ConfigKey → Bytes
  | serverHost => literal "server.host"
  | serverPort => literal "server.port"
  | ioThreads => literal "server.io_threads"
  | businessThreads => literal "server.business_threads"
  | businessQueueCapacity => literal "server.business_queue_capacity"
  | outputHighWaterMarkBytes => literal "server.output_high_water_mark_bytes"
  | logLevel => literal "log.level"
  | mysqlHost => literal "mysql.host"
  | mysqlPort => literal "mysql.port"
  | mysqlUser => literal "mysql.user"
  | mysqlPassword => literal "mysql.password"
  | mysqlDatabase => literal "mysql.database"
  | mysqlPoolSize => literal "mysql.pool_size"
  | redisHost => literal "redis.host"
  | redisPort => literal "redis.port"
  | redisPassword => literal "redis.password"
  | redisDb => literal "redis.db"
  | redisPoolSize => literal "redis.pool_size"
  | qtServerHost => literal "qt.server_host"
  | qtServerPort => literal "qt.server_port"

/-- The keys in the order in which they are compared. -/
def all : List ConfigKey :=
  [serverHost, serverPort, ioThreads, businessThreads, businessQueueCapacity,
    outputHighWaterMarkBytes, logLevel, mysqlHost, mysqlPort, mysqlUser, mysqlPassword,
    mysqlDatabase, mysqlPoolSize, redisHost, redisPort, redisPassword, redisDb, redisPoolSize,
    qtServerHost, qtServerPort]

def ofName? (name : Bytes) : Option ConfigKey := all.find? fun key => key.name = name

theorem mem_all (key : ConfigKey) : key ∈ all := by
  cases key <;> decide

theorem name_injective : Function.Injective name := by
  have hnodup : (all.map name).Nodup := by decide +kernel
  intro key key' heq
  exact List.inj_on_of_nodup_map hnodup (mem_all key) (mem_all key') heq

theorem ofName?_eq_some_iff {name : Bytes} {key : ConfigKey} :
    ofName? name = some key ↔ key.name = name := by
  have hspec {found : ConfigKey} (hfind : ofName? name = some found) : found.name = name := by
    have hname := List.find?_some hfind
    exact of_decide_eq_true hname
  refine ⟨hspec, fun hname => ?_⟩
  have hsome : (ofName? name).isSome :=
    List.find?_isSome.mpr ⟨key, mem_all key, decide_eq_true hname⟩
  obtain ⟨found, hfound⟩ := Option.isSome_iff_exists.mp hsome
  rw [hfound, name_injective ((hspec hfound).trans hname.symm)]

end ConfigKey

namespace Config

/-- Bytes inside the text of an error, one character each. -/
def display (bytes : Bytes) : String := String.ofList (bytes.map fun byte => Char.ofNat byte.toNat)

/-! ## Numbers -/

def parseUint32 (value : Bytes) : Except Error UInt32 :=
  match stoull value with
  | none => error .parseError ("invalid unsigned integer: " ++ display value)
  | some (number, parsed) =>
    if parsed ≠ value.length ∨ number.toNat > 4294967295 then
      error .parseError ("invalid unsigned integer: " ++ display value)
    else .ok number.toUInt32

def parsePort (value : Bytes) : Except Error UInt16 :=
  match parseUint32 value with
  | .error status => .error status
  | .ok port =>
    if port = 0 ∨ port > 65535 then
      error .parseError ("invalid port: " ++ display value)
    else .ok port.toUInt16

/-! ## Writing a field -/

/-- A field that a port is parsed into. It is written only when that succeeds. -/
def assignPort (config : Config) (value : Bytes) (write : UInt16 → Config) :
    Except Error Unit × Config :=
  match parsePort value with
  | .error status => (.error status, config)
  | .ok port => (.ok (), write port)

/-- A field that a number is parsed into. -/
def assignUint32 (config : Config) (value : Bytes) (write : UInt32 → Config) :
    Except Error Unit × Config :=
  match parseUint32 value with
  | .error status => (.error status, config)
  | .ok number => (.ok (), write number)

/-- The branch of `loadFromFile` for a key. -/
def assign (config : Config) (value : Bytes) : ConfigKey → Except Error Unit × Config
  | .serverHost => (.ok (), { config with serverHost := value })
  | .serverPort => config.assignPort value fun port => { config with serverPort := port }
  | .ioThreads => config.assignUint32 value fun number => { config with ioThreads := number }
  | .businessThreads =>
    config.assignUint32 value fun number => { config with businessThreads := number }
  | .businessQueueCapacity =>
    -- The capacity is written before it is compared with zero.
    match parseUint32 value with
    | .error status => (.error status, config)
    | .ok capacity =>
      if capacity = 0 then
        (error .invalidArgument "business queue capacity must be positive",
          { config with businessQueueCapacity := capacity })
      else (.ok (), { config with businessQueueCapacity := capacity })
  | .outputHighWaterMarkBytes =>
    match parseUint32 value with
    | .error status => (.error status, config)
    | .ok highWaterMark =>
      if highWaterMark = 0 then
        (error .invalidArgument "output high water mark must be positive", config)
      else (.ok (), { config with sessionOutputHighWaterMark := highWaterMark.toNat })
  | .logLevel => (.ok (), { config with logLevel := value })
  | .mysqlHost => (.ok (), { config with mysql.host := value })
  | .mysqlPort => config.assignPort value fun port => { config with mysql.port := port }
  | .mysqlUser => (.ok (), { config with mysql.user := value })
  | .mysqlPassword => (.ok (), { config with mysql.password := value })
  | .mysqlDatabase => (.ok (), { config with mysql.database := value })
  | .mysqlPoolSize =>
    config.assignUint32 value fun number => { config with mysql.poolSize := number }
  | .redisHost => (.ok (), { config with redis.host := value })
  | .redisPort => config.assignPort value fun port => { config with redis.port := port }
  | .redisPassword => (.ok (), { config with redis.password := value })
  | .redisDb => config.assignUint32 value fun number => { config with redis.db := number }
  | .redisPoolSize =>
    config.assignUint32 value fun number => { config with redis.poolSize := number }
  | .qtServerHost => (.ok (), { config with qtClient.serverHost := value })
  | .qtServerPort =>
    config.assignPort value fun port => { config with qtClient.serverPort := port }

/-- One entry of the table of texts. -/
abbrev Entry := Sigma fun _ : Bytes => Bytes

def applyValue (config : Config) (entry : Entry) : Except Error Unit × Config :=
  match ConfigKey.ofName? entry.1 with
  | some key => config.assign entry.2 key
  | none => (error .invalidArgument ("unknown config key: " ++ display entry.1), config)

/-- The loop over the table. The first failure ends it. -/
def applyValues : List Entry → Config → Except Error Unit × Config
  | [], config => (.ok (), config)
  | entry :: rest, config =>
    match config.applyValue entry with
    | (.error status, config) => (.error status, config)
    | (.ok (), config) => applyValues rest config

/-! ## Reading a file -/

/-- The texts read so far, under their keys. -/
abbrev Values := AList fun _ : Bytes => Bytes

/-- A line without its comment and the blanks around it. -/
def lineText (line : Bytes) : Bytes := trim (line.takeWhile (· ≠ 0x23))

def readLine (line : Bytes) (lineNumber : UInt32) (values : Values) : Except Error Values :=
  if lineText line = [] then .ok values
  else
    match cutAt 0x3D (lineText line) with
    | none => error .parseError s!"invalid config line {lineNumber}"
    | some (front, back) =>
      if trim front = [] then
        error .parseError s!"empty config key at line {lineNumber}"
      else .ok (values.insert (trim front) (trim back))

def readLines : List Bytes → UInt32 → Values → Except Error Values
  | [], _, values => .ok values
  | line :: rest, lineNumber, values =>
    match readLine line (lineNumber + 1) values with
    | .error status => .error status
    | .ok values => readLines rest (lineNumber + 1) values

/-- `loadFromFile(path)`, with the contents of the file if it can be opened and the order in
which the table is visited. -/
def loadFromFile (order : List Entry → List Entry) (path : String) (file : Option Bytes)
    (config : Config) : Except Error Unit × Config :=
  match file with
  | none => (error .notFound ("config file not found: " ++ path), config)
  | some content =>
    match readLines (lines content) 0 ∅ with
    | .error status => (.error status, config)
    | .ok values => applyValues (order values.entries) config

end Config

end LiteIM
