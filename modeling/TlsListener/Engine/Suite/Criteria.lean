import TlsListener.Engine.Suite.Basic

/-!
# What names in rules stand for

A rule on suites picks them by names. The name of a suite stands for that suite, and keywords stand
for all suites that share a part, a grade or a version. Several names joined in one rule pick the
suites that all of them stand for; names of which no suite could have both parts cannot be joined.
-/

namespace TlsListener.Suite

/-- What a suite has to be like to be picked. What is absent may be anything. -/
structure Criteria where
  exchange : Option (List Exchange) := none
  authentication : Option (List Authentication) := none
  encryption : Option (List Encryption) := none
  code : Option (List MessageCode) := none
  grade : Option (List Grade) := none
  /-- Only suites that are not offered unless they are asked for. -/
  rare : Bool := false
  era : Option Era := none
  suite : Option Suite := none
  deriving DecidableEq, Repr

namespace Criteria

/-- Whether a part is one of those that are asked for, if any are. -/
def allows [BEq α] (wanted : Option (List α)) (part : α) : Bool :=
  wanted.all (·.contains part)

/-- Whether a suite is picked. -/
def picks (criteria : Criteria) (suite : Suite) : Bool :=
  criteria.suite.all (· == suite) && allows criteria.exchange suite.exchange &&
    allows criteria.authentication suite.authentication &&
    allows criteria.encryption suite.encryption && allows criteria.code suite.code &&
    criteria.grade.all (fun wanted => suite.grades.any wanted.contains) &&
    (!criteria.rare || suite.isRare) && criteria.era.all (· == suite.era)

/-- The suites that are picked, in the order in which they are known. -/
def picked (criteria : Criteria) : List Suite :=
  classic.filter criteria.picks

/-- The parts that two criteria have in common, unless there are none. -/
def common [BEq α] : Option (List α) → Option (List α) → Option (Option (List α))
  | none, wanted => some wanted
  | wanted, none => some wanted
  | some first, some second =>
    let both := first.filter second.contains
    if both.isEmpty then none else some (some both)

/-- One version for both criteria, unless they ask for different ones. -/
def sameEra : Option Era → Option Era → Option (Option Era)
  | none, era => some era
  | era, none => some era
  | some first, some second => if first = second then some (some first) else none

/-- Two criteria joined. -/
def join? (first second : Criteria) : Option Criteria := do
  return {
    exchange := ← common first.exchange second.exchange
    authentication := ← common first.authentication second.authentication
    encryption := ← common first.encryption second.encryption
    code := ← common first.code second.code
    grade := ← common first.grade second.grade
    rare := first.rare || second.rare
    era := ← sameEra first.era second.era
    suite := second.suite <|> first.suite }

/-- The criteria that pick one suite. Its version does not count where it is joined with others. -/
def ofSuite (suite : Suite) : Criteria where
  exchange := some [suite.exchange]
  authentication := some [suite.authentication]
  encryption := some [suite.encryption]
  code := some [suite.code]
  grade := if suite.grades.isEmpty then none else some suite.grades
  rare := suite.isRare
  suite := some suite

/-- All ciphers that encrypt. -/
def ciphers : List Encryption :=
  [.tripleDes, .aes128, .aes256, .aes128Gcm, .aes256Gcm, .aes128Ccm, .aes256Ccm, .aes128Ccm8,
    .aes256Ccm8, .aria128Gcm, .aria256Gcm, .chacha20]

/-- All ways in which a server shows who it is. -/
def authenticated : List Authentication := [.rsa, .dss, .ecdsa, .psk, .srp]

/-- The ciphers with keys of 128 and of 256 bits that are called AES. -/
def aes128 : List Encryption := [.aes128, .aes128Gcm, .aes128Ccm, .aes128Ccm8]
def aes256 : List Encryption := [.aes256, .aes256Gcm, .aes256Ccm, .aes256Ccm8]

/-- The suites with a key exchange that has to be one of several. -/
def exchanges (names : List String) (wanted : List Exchange) : List (String × Criteria) :=
  names.map fun name => (name, { exchange := some wanted })

/-- The suites of one way to authenticate. -/
def authentications (names : List String) (wanted : Authentication) : List (String × Criteria) :=
  names.map fun name => (name, { authentication := some [wanted] })

/-- The suites with a cipher that has to be one of several. -/
def encryptions (names : List String) (wanted : List Encryption) : List (String × Criteria) :=
  names.map fun name => (name, { encryption := some wanted })

/-- The suites with one code. -/
def codes (names : List String) (wanted : MessageCode) : List (String × Criteria) :=
  names.map fun name => (name, { code := some [wanted] })

/-- The suites of one version. -/
def eras (names : List String) (wanted : Era) : List (String × Criteria) :=
  names.map fun name => (name, { era := some wanted })

/-- The keywords, each with what it stands for. -/
def keywords : List (String × Criteria) :=
  encryptions ["ALL"] ciphers ++
  encryptions ["COMPLEMENTOFALL", "NULL", "eNULL"] [.plain] ++
  [("COMPLEMENTOFDEFAULT", { rare := true })] ++
  exchanges ["kRSA"] [.rsa] ++
  exchanges ["kEDH", "kDHE", "DH"] [.dhe] ++
  exchanges ["kEECDH", "kECDHE", "ECDH"] [.ecdhe] ++
  exchanges ["kPSK"] [.psk] ++
  exchanges ["kRSAPSK"] [.rsaPsk] ++
  exchanges ["kECDHEPSK"] [.ecdhePsk] ++
  exchanges ["kDHEPSK"] [.dhePsk] ++
  exchanges ["kSRP", "SRP"] [.srp] ++
  exchanges ["PSK"] [.psk, .rsaPsk, .ecdhePsk, .dhePsk] ++
  authentications ["aRSA"] .rsa ++
  authentications ["aDSS", "DSS"] .dss ++
  authentications ["aNULL"] .anonymous ++
  authentications ["aECDSA", "ECDSA"] .ecdsa ++
  authentications ["aPSK"] .psk ++
  authentications ["aSRP"] .srp ++
  ["EDH", "DHE"].map (fun name =>
    (name, { exchange := some [.dhe], authentication := some authenticated })) ++
  ["EECDH", "ECDHE"].map (fun name =>
    (name, { exchange := some [.ecdhe], authentication := some authenticated })) ++
  [("RSA", { exchange := some [.rsa], authentication := some [.rsa] }),
    ("ADH", { exchange := some [.dhe], authentication := some [.anonymous] }),
    ("AECDH", { exchange := some [.ecdhe], authentication := some [.anonymous] })] ++
  encryptions ["3DES"] [.tripleDes] ++
  encryptions ["AES128"] aes128 ++
  encryptions ["AES256"] aes256 ++
  encryptions ["AES"] (aes128 ++ aes256) ++
  encryptions ["AESGCM"] [.aes128Gcm, .aes256Gcm] ++
  encryptions ["AESCCM"] [.aes128Ccm, .aes256Ccm, .aes128Ccm8, .aes256Ccm8] ++
  encryptions ["AESCCM8"] [.aes128Ccm8, .aes256Ccm8] ++
  encryptions ["CHACHA20"] [.chacha20] ++
  encryptions ["ARIA", "ARIAGCM"] [.aria128Gcm, .aria256Gcm] ++
  encryptions ["ARIA128"] [.aria128Gcm] ++
  encryptions ["ARIA256"] [.aria256Gcm] ++
  encryptions ["CBC"] [.tripleDes, .aes128, .aes256] ++
  codes ["MD5"] .md5 ++
  codes ["SHA1", "SHA"] .sha1 ++
  codes ["SHA256"] .sha256 ++
  codes ["SHA384"] .sha384 ++
  eras ["SSLv3"] .ssl3 ++
  eras ["TLSv1", "TLSv1.0"] .tls10 ++
  eras ["TLSv1.2"] .tls12 ++
  [("LOW", { grade := some [.low] }), ("MEDIUM", { grade := some [.medium] }),
    ("HIGH", { grade := some [.high] }),
    ("FIPS", { encryption := some ciphers, grade := some [.fips] })] ++
  [(Authentication.dss, "EDH-DSS-DES-CBC3-SHA"), (.rsa, "EDH-RSA-DES-CBC3-SHA")].map
    fun (authentication, name) => (name, {
      exchange := some [.dhe]
      authentication := some [authentication]
      encryption := some [.tripleDes]
      code := some [.sha1]
      grade := some [.high, .fips] })

/-- What a name stands for, if it is known. -/
def named? (name : String) : Option Criteria :=
  match classic.find? fun suite => suite.registered == name || suite.name == name with
  | some suite => some (ofSuite suite)
  | none => keywords.lookup name

end Criteria

end TlsListener.Suite
