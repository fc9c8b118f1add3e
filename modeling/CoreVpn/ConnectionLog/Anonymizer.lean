import CoreVpn.ConnectionLog.Events

/-!
# Event anonymizer

`Anonymizer` (`corevpn-server/src/connection_log/anonymizer.rs`) rewrites each event
before it is logged, as its `ConnectionLogAnonymization` configuration asks: ports are
always cleared, client addresses hashed or truncated to their /24 or /48 prefix,
usernames hashed, timestamps rounded down to the hour and transfer counts bucketed, and
the free-text authentication details and client info are always dropped. Its hashes are
`DefaultHasher` digests of a value and a salt that changes with the day of the year; the
digests are a parameter here, and the day is what the clock reads at each call.

Two events of one constructor that differ only in what the configuration hides come out
the same (`anonymize_hides_configured`).
-/

namespace CoreVpn.ConnectionLog

open CoreVpn.Core

set_option autoImplicit false

/-- `ConnectionLogAnonymization` (`corevpn-config/src/server.rs`). -/
structure ConnectionLogAnonymization where
  hashClientIps : Bool
  truncateClientIps : Bool
  hashUsernames : Bool
  roundTimestamps : Bool
  aggregateTransferStats : Bool
  deriving DecidableEq

/-- The `DefaultHasher` digests the anonymizer takes: of a day with the salt text, and of
an address or a username with the day's salt. -/
structure Hasher where
  day : UInt32 → UInt64
  ip : IpAddr → Vector UInt8 32 → UInt64
  username : String → Vector UInt8 32 → UInt64

structure Anonymizer where
  config : ConnectionLogAnonymization
  dailySalt : Vector UInt8 32
  currentDay : UInt32

namespace Anonymizer

variable (hasher : Hasher)

/-- `generate_salt`: the day's digest, its eight bytes repeated, low byte first. -/
def generateSalt (day : UInt32) : Vector UInt8 32 :=
  Vector.ofFn fun i => ((hasher.day day >>> (i.val % 8 * 8).toUInt64) &&& 0xFF).toUInt8

/-- `Anonymizer::new`, with `today` the clock's day of the year. -/
def new (config : ConnectionLogAnonymization) (today : UInt32) : Anonymizer :=
  ⟨config, generateSalt hasher today, today⟩

def rotateSaltIfNeeded (today : UInt32) (anonymizer : Anonymizer) : Anonymizer :=
  if today ≠ anonymizer.currentDay then
    { anonymizer with dailySalt := generateSalt hasher today, currentDay := today }
  else anonymizer

/-- `anonymize_timestamp`: with rounding on, the minute, the second and the nanosecond
are set to zero. -/
def anonymizeTimestamp (anonymizer : Anonymizer) (timestamp : DateTime) : DateTime :=
  if anonymizer.config.roundTimestamps then
    (((timestamp.withMinute 0).bind fun t => t.withSecond 0).bind fun t => t.withNanosecond 0).getD
      timestamp
  else timestamp

/-- `hash_ip`: an IPv4 digest goes to 0.0.0.0/8, an IPv6 one to 2001:db8::/32. -/
def hashIp (anonymizer : Anonymizer) (ip : IpAddr) : IpAddr :=
  let hash := hasher.ip ip anonymizer.dailySalt
  match ip with
  | .v4 _ =>
      .v4 (ipv4 0 ((hash >>> 8) &&& 0xFF).toUInt8 ((hash >>> 16) &&& 0xFF).toUInt8
        ((hash >>> 24) &&& 0xFF).toUInt8)
  | .v6 _ =>
      .v6 (ipv6OfBytes #v[0x20, 0x01, 0x0d, 0xb8, ((hash >>> 32) &&& 0xFF).toUInt8,
        ((hash >>> 40) &&& 0xFF).toUInt8, ((hash >>> 48) &&& 0xFF).toUInt8,
        ((hash >>> 56) &&& 0xFF).toUInt8, (hash &&& 0xFF).toUInt8, ((hash >>> 8) &&& 0xFF).toUInt8,
        ((hash >>> 16) &&& 0xFF).toUInt8, ((hash >>> 24) &&& 0xFF).toUInt8, 0, 0, 0, 0])

/-- `truncate_ip`: the /24 or /48 prefix, the rest zero. -/
def truncateIp : IpAddr → IpAddr
  | .v4 addr => .v4 (ipv4 (octets addr)[0] (octets addr)[1] (octets addr)[2] 0)
  | .v6 addr => .v6 (ipv6 (segments addr)[0] (segments addr)[1] (segments addr)[2] 0 0 0 0 0)

/-- `anonymize_socket_addr`: hashing wins over truncation, and the port is always 0. -/
def anonymizeSocketAddr (anonymizer : Anonymizer) (addr : SocketAddr) : SocketAddr :=
  let ip :=
    if anonymizer.config.hashClientIps then hashIp hasher anonymizer addr.ip
    else if anonymizer.config.truncateClientIps then truncateIp addr.ip
    else addr.ip
  ⟨ip, 0⟩

def lowerHex016 (value : UInt64) : String :=
  let digits := Nat.toDigits 16 value.toNat
  String.ofList (List.replicate (16 - digits.length) '0' ++ digits)

def anonymizeUsername (anonymizer : Anonymizer) (username : Option String) : Option String :=
  if !anonymizer.config.hashUsernames then username
  else username.map fun name => "user_" ++ lowerHex016 (hasher.username name anonymizer.dailySalt)

def bucket (bytes : UInt64) : UInt64 :=
  if bytes ≤ 1023 then 512
  else if bytes ≤ 10239 then 5 * 1024
  else if bytes ≤ 102399 then 50 * 1024
  else if bytes ≤ 1048575 then 500 * 1024
  else if bytes ≤ 10485759 then 5 * 1024 * 1024
  else if bytes ≤ 104857599 then 50 * 1024 * 1024
  else if bytes ≤ 1073741823 then 500 * 1024 * 1024
  else 1024 * 1024 * 1024

/-- `anonymize_stats`: with aggregation on, byte counts are bucketed and packet counts
dropped. -/
def anonymizeStats (anonymizer : Anonymizer) (stats : Option TransferStats) : Option TransferStats :=
  if !anonymizer.config.aggregateTransferStats then stats
  else stats.map fun stats => ⟨bucket stats.bytesRx, bucket stats.bytesTx, 0, 0⟩

/-- `Anonymizer::anonymize`, with `today` the clock's day of the year. -/
def anonymize (today : UInt32) (anonymizer : Anonymizer) (event : ConnectionEvent) :
    ConnectionEvent × Anonymizer :=
  let anonymizer := rotateSaltIfNeeded hasher today anonymizer
  let event :=
    match event with
    | .connectionAttempt connectionId timestamp clientAddr protocolVersion =>
        .connectionAttempt connectionId (anonymizeTimestamp anonymizer timestamp)
          (anonymizeSocketAddr hasher anonymizer clientAddr) protocolVersion
    | .authentication connectionId timestamp clientAddr username authMethod result _ =>
        .authentication connectionId (anonymizeTimestamp anonymizer timestamp)
          (anonymizeSocketAddr hasher anonymizer clientAddr) (anonymizeUsername hasher anonymizer username)
          authMethod result none
    | .connected connectionId timestamp clientAddr username vpnIp authMethod _ =>
        .connected connectionId (anonymizeTimestamp anonymizer timestamp)
          (anonymizeSocketAddr hasher anonymizer clientAddr) (anonymizeUsername hasher anonymizer username)
          vpnIp authMethod none
    | .disconnected connectionId timestamp clientAddr username reason duration stats =>
        .disconnected connectionId (anonymizeTimestamp anonymizer timestamp)
          (anonymizeSocketAddr hasher anonymizer clientAddr) (anonymizeUsername hasher anonymizer username)
          reason duration (anonymizeStats anonymizer stats)
    | .ipChange connectionId timestamp oldAddr newAddr username =>
        .ipChange connectionId (anonymizeTimestamp anonymizer timestamp)
          (anonymizeSocketAddr hasher anonymizer oldAddr) (anonymizeSocketAddr hasher anonymizer newAddr)
          (anonymizeUsername hasher anonymizer username)
    | .renegotiation connectionId timestamp clientAddr success =>
        .renegotiation connectionId (anonymizeTimestamp anonymizer timestamp)
          (anonymizeSocketAddr hasher anonymizer clientAddr) success
  (event, anonymizer)

/-! ## What the anonymizer hides -/

def SamePrefix : IpAddr → IpAddr → Prop
  | .v4 a, .v4 b => a.extractLsb' 8 24 = b.extractLsb' 8 24
  | .v6 a, .v6 b => a.extractLsb' 80 48 = b.extractLsb' 80 48
  | _, _ => False

/-- Socket addresses that differ at most in their ports, and, with truncation on and
hashing off, in the address bits after the prefix. -/
def SimilarAddr (config : ConnectionLogAnonymization) (a b : SocketAddr) : Prop :=
  a.ip = b.ip ∨ (config.truncateClientIps = true ∧ config.hashClientIps = false ∧ SamePrefix a.ip b.ip)

/-- Timestamps that, with rounding on, differ at most in the minute, the second and the
nanosecond. -/
def SimilarTime (config : ConnectionLogAnonymization) (s t : DateTime) : Prop :=
  s = t ∨ (config.roundTimestamps = true ∧ s.date = t.date ∧ s.time.secs / 3600 = t.time.secs / 3600)

def SimilarStats (config : ConnectionLogAnonymization) : Option TransferStats → Option TransferStats → Prop
  | some s, some t =>
      s = t ∨ (config.aggregateTransferStats = true ∧ bucket s.bytesRx = bucket t.bytesRx ∧
        bucket s.bytesTx = bucket t.bytesTx)
  | none, none => True
  | _, _ => False

def Similar (config : ConnectionLogAnonymization) : ConnectionEvent → ConnectionEvent → Prop
  | .connectionAttempt id t a v, .connectionAttempt id' t' a' v' =>
      id = id' ∧ SimilarTime config t t' ∧ SimilarAddr config a a' ∧ v = v'
  | .authentication id t a u m r _, .authentication id' t' a' u' m' r' _ =>
      id = id' ∧ SimilarTime config t t' ∧ SimilarAddr config a a' ∧ u = u' ∧ m = m' ∧ r = r'
  | .connected id t a u ip m _, .connected id' t' a' u' ip' m' _ =>
      id = id' ∧ SimilarTime config t t' ∧ SimilarAddr config a a' ∧ u = u' ∧ ip = ip' ∧ m = m'
  | .disconnected id t a u r d s, .disconnected id' t' a' u' r' d' s' =>
      id = id' ∧ SimilarTime config t t' ∧ SimilarAddr config a a' ∧ u = u' ∧ r = r' ∧ d = d' ∧
        SimilarStats config s s'
  | .ipChange id t o n u, .ipChange id' t' o' n' u' =>
      id = id' ∧ SimilarTime config t t' ∧ SimilarAddr config o o' ∧ SimilarAddr config n n' ∧ u = u'
  | .renegotiation id t a ok, .renegotiation id' t' a' ok' =>
      id = id' ∧ SimilarTime config t t' ∧ SimilarAddr config a a' ∧ ok = ok'
  | _, _ => False

theorem extractLsb'_eq_of_extractLsb'_eq {w : Nat} {a b : BitVec w} {start len : Nat}
    (same : a.extractLsb' start len = b.extractLsb' start len) {pos width : Nat} (after : start ≤ pos)
    (inside : pos + width ≤ start + len) :
    a.extractLsb' pos width = b.extractLsb' pos width := by
  apply BitVec.eq_of_getLsbD_eq
  intro i below
  have bit := congrArg (fun x => x.getLsbD (pos - start + i)) same
  simp only [BitVec.getLsbD_extractLsb', show pos - start + i < len by omega, decide_true,
    Bool.true_and, show start + (pos - start + i) = pos + i by omega] at bit
  simpa only [BitVec.getLsbD_extractLsb', below, decide_true, Bool.true_and] using bit

theorem truncateIp_eq_of_samePrefix {a b : IpAddr} (same : SamePrefix a b) : truncateIp a = truncateIp b := by
  match a, b, same with
  | .v4 a, .v4 b, same =>
      have first : a.extractLsb' 24 8 = b.extractLsb' 24 8 := extractLsb'_eq_of_extractLsb'_eq same (by omega) (by omega)
      have second : a.extractLsb' 16 8 = b.extractLsb' 16 8 := extractLsb'_eq_of_extractLsb'_eq same (by omega) (by omega)
      have third : a.extractLsb' 8 8 = b.extractLsb' 8 8 := extractLsb'_eq_of_extractLsb'_eq same (by omega) (by omega)
      simp [truncateIp, octets, first, second, third]
  | .v6 a, .v6 b, same =>
      have first : a.extractLsb' 112 16 = b.extractLsb' 112 16 := extractLsb'_eq_of_extractLsb'_eq same (by omega) (by omega)
      have second : a.extractLsb' 96 16 = b.extractLsb' 96 16 := extractLsb'_eq_of_extractLsb'_eq same (by omega) (by omega)
      have third : a.extractLsb' 80 16 = b.extractLsb' 80 16 := extractLsb'_eq_of_extractLsb'_eq same (by omega) (by omega)
      simp [truncateIp, segments, first, second, third]

section Anonymize

variable {hasher : Hasher} {anonymizer : Anonymizer}

theorem anonymizeSocketAddr_eq {a b : SocketAddr} (similar : SimilarAddr anonymizer.config a b) :
    anonymizeSocketAddr hasher anonymizer a = anonymizeSocketAddr hasher anonymizer b := by
  rcases similar with same | ⟨truncating, notHashing, prefixed⟩
  · simp only [anonymizeSocketAddr, same]
  · simp only [anonymizeSocketAddr, truncating, notHashing, Bool.false_eq_true, if_false, if_true,
      truncateIp_eq_of_samePrefix prefixed]

theorem anonymizeTimestamp_of_round (rounding : anonymizer.config.roundTimestamps = true) (t : DateTime) :
    anonymizeTimestamp anonymizer t =
      ⟨t.date, ⟨t.time.secs / 3600 * 3600, 0, by have := t.time.secs_lt; omega, by decide⟩⟩ := by
  have hour : (t.time.secs / 3600 * 3600 + t.time.secs % 60) / 60 * 60 = t.time.secs / 3600 * 3600 := by
    omega
  simp [anonymizeTimestamp, rounding, DateTime.withMinute, DateTime.withSecond, DateTime.withNanosecond,
    NaiveTime.withMinute, NaiveTime.withSecond, NaiveTime.withNanosecond, hour]

theorem anonymizeTimestamp_eq {s t : DateTime} (similar : SimilarTime anonymizer.config s t) :
    anonymizeTimestamp anonymizer s = anonymizeTimestamp anonymizer t := by
  rcases similar with same | ⟨rounding, sameDate, sameHour⟩
  · rw [same]
  · rw [anonymizeTimestamp_of_round rounding, anonymizeTimestamp_of_round rounding]
    simp only [sameDate, sameHour]

theorem anonymizeStats_eq {s t : Option TransferStats} (similar : SimilarStats anonymizer.config s t) :
    anonymizeStats anonymizer s = anonymizeStats anonymizer t := by
  match s, t, similar with
  | none, none, _ => rfl
  | some s, some t, .inl same => rw [same]
  | some s, some t, .inr ⟨aggregating, sameRx, sameTx⟩ =>
      simp only [anonymizeStats, aggregating, Bool.not_true, Bool.false_eq_true, if_false, Option.map_some,
        sameRx, sameTx]

end Anonymize

theorem config_rotateSaltIfNeeded (hasher : Hasher) (today : UInt32) (anonymizer : Anonymizer) :
    (rotateSaltIfNeeded hasher today anonymizer).config = anonymizer.config := by
  unfold rotateSaltIfNeeded
  split <;> rfl

/-- Whatever the configuration, state and day, two events of one constructor that differ
only where the configuration says the anonymizer hides are anonymized to the same event. -/
theorem anonymize_hides_configured (hasher : Hasher) (today : UInt32) (anonymizer : Anonymizer)
    (e₁ e₂ : ConnectionEvent) (similar : Similar anonymizer.config e₁ e₂) :
    (anonymize hasher today anonymizer e₁).1 = (anonymize hasher today anonymizer e₂).1 := by
  rw [← config_rotateSaltIfNeeded hasher today anonymizer] at similar
  simp only [anonymize]
  generalize rotateSaltIfNeeded hasher today anonymizer = current at similar ⊢
  cases e₁ <;> cases e₂ <;> simp only [Similar] at similar <;> dsimp only
  case connectionAttempt.connectionAttempt =>
    obtain ⟨rfl, time, addr, rfl⟩ := similar
    rw [anonymizeTimestamp_eq time, anonymizeSocketAddr_eq addr]
  case authentication.authentication =>
    obtain ⟨rfl, time, addr, rfl, rfl, rfl⟩ := similar
    rw [anonymizeTimestamp_eq time, anonymizeSocketAddr_eq addr]
  case connected.connected =>
    obtain ⟨rfl, time, addr, rfl, rfl, rfl⟩ := similar
    rw [anonymizeTimestamp_eq time, anonymizeSocketAddr_eq addr]
  case disconnected.disconnected =>
    obtain ⟨rfl, time, addr, rfl, rfl, rfl, stats⟩ := similar
    rw [anonymizeTimestamp_eq time, anonymizeSocketAddr_eq addr, anonymizeStats_eq stats]
  case ipChange.ipChange =>
    obtain ⟨rfl, time, old, new, rfl⟩ := similar
    rw [anonymizeTimestamp_eq time, anonymizeSocketAddr_eq old, anonymizeSocketAddr_eq new]
  case renegotiation.renegotiation =>
    obtain ⟨rfl, time, addr, rfl⟩ := similar
    rw [anonymizeTimestamp_eq time, anonymizeSocketAddr_eq addr]

/-- Two disconnections from one /24 within one hour, from different ports and with
different packet counts and byte counts in one bucket, under truncation, rounding and
aggregation. -/
theorem anonymize_disconnections_from_one_subnet :
    Similar ⟨false, true, false, true, true⟩
        (.disconnected ⟨Vector.replicate 16 7⟩ ⟨19000, ⟨36061, 5, by decide, by decide⟩⟩
          ⟨.v4 (ipv4 10 0 0 5), 51000⟩ (some "alice") .clientDisconnect (Duration.fromSecs 60)
          (some ⟨100, 200, 3, 4⟩))
        (.disconnected ⟨Vector.replicate 16 7⟩ ⟨19000, ⟨37799, 999, by decide, by decide⟩⟩
          ⟨.v4 (ipv4 10 0 0 77), 443⟩ (some "alice") .clientDisconnect (Duration.fromSecs 60)
          (some ⟨900, 50, 9, 1⟩)) ∧
      (anonymize ⟨fun _ => 0, fun _ _ => 0, fun _ _ => 0⟩ 1
          ⟨⟨false, true, false, true, true⟩, Vector.replicate 32 0, 1⟩
          (.disconnected ⟨Vector.replicate 16 7⟩ ⟨19000, ⟨36061, 5, by decide, by decide⟩⟩
            ⟨.v4 (ipv4 10 0 0 5), 51000⟩ (some "alice") .clientDisconnect (Duration.fromSecs 60)
            (some ⟨100, 200, 3, 4⟩))).1 =
        (anonymize ⟨fun _ => 0, fun _ _ => 0, fun _ _ => 0⟩ 1
          ⟨⟨false, true, false, true, true⟩, Vector.replicate 32 0, 1⟩
          (.disconnected ⟨Vector.replicate 16 7⟩ ⟨19000, ⟨37799, 999, by decide, by decide⟩⟩
            ⟨.v4 (ipv4 10 0 0 77), 443⟩ (some "alice") .clientDisconnect (Duration.fromSecs 60)
            (some ⟨900, 50, 9, 1⟩))).1 := by
  have samePrefix : (ipv4 10 0 0 5).extractLsb' 8 24 = (ipv4 10 0 0 77).extractLsb' 8 24 := by decide
  have similar : Similar ⟨false, true, false, true, true⟩
      (.disconnected ⟨Vector.replicate 16 7⟩ ⟨19000, ⟨36061, 5, by decide, by decide⟩⟩
        ⟨.v4 (ipv4 10 0 0 5), 51000⟩ (some "alice") .clientDisconnect (Duration.fromSecs 60)
        (some ⟨100, 200, 3, 4⟩))
      (.disconnected ⟨Vector.replicate 16 7⟩ ⟨19000, ⟨37799, 999, by decide, by decide⟩⟩
        ⟨.v4 (ipv4 10 0 0 77), 443⟩ (some "alice") .clientDisconnect (Duration.fromSecs 60)
        (some ⟨900, 50, 9, 1⟩)) :=
    ⟨rfl, .inr ⟨rfl, rfl, by decide⟩, .inr ⟨rfl, rfl, samePrefix⟩, rfl, rfl, rfl,
      .inr ⟨rfl, by decide, by decide⟩⟩
  exact ⟨similar, anonymize_hides_configured _ _ _ _ _ similar⟩

end Anonymizer

end CoreVpn.ConnectionLog
