import TlsListener.Crypto.Curve.Named

/-!
# Known curves of single regions

Further curves over prime fields that certificates may name: pairs of which the second curve is the
first in a form with a simpler equation, and one that goes with other algorithms for signatures.
-/

namespace TlsListener.NamedCurve

/-- A curve over a field of 160 bits. -/
def brainpoolP160r1 : NamedCurve where
  path := [1, 3, 36, 3, 3, 2, 8, 1, 1, 1]
  field := .prime 0xe95e4a5f737059dc60dfc7ad95b3d8139515620f
  a := 0x340e7be2a280eb74e2be61bada745d97e8f7c300
  b := 0x1e589a8595423412134faa2dbdec95c8d8675e58
  x := 0xbed5af16ea3f6a4f62938c4631eb5af7bdbcdbc3
  y := 0x1667cb477a1a8ec338f94741669c976316da6321
  order := 0xe95e4a5f737059dc60df5991d45029409e60fc09

/-- A curve over a field of 160 bits. -/
def brainpoolP160t1 : NamedCurve where
  path := [1, 3, 36, 3, 3, 2, 8, 1, 1, 2]
  field := .prime 0xe95e4a5f737059dc60dfc7ad95b3d8139515620f
  a := 0xe95e4a5f737059dc60dfc7ad95b3d8139515620c
  b := 0x7a556b6dae535b7b51ed2c4d7daa7a0b5c55f380
  x := 0xb199b13b9b34efc1397e64baeb05acc265ff2378
  y := 0xadd6718b7c7c1961f0991b842443772152c9e0ad
  order := 0xe95e4a5f737059dc60df5991d45029409e60fc09

/-- A curve over a field of 192 bits. -/
def brainpoolP192r1 : NamedCurve where
  path := [1, 3, 36, 3, 3, 2, 8, 1, 1, 3]
  field := .prime 0xc302f41d932a36cda7a3463093d18db78fce476de1a86297
  a := 0x6a91174076b1e0e19c39c031fe8685c1cae040e5c69a28ef
  b := 0x469a28ef7c28cca3dc721d044f4496bcca7ef4146fbf25c9
  x := 0xc0a0647eaab6a48753b033c56cb0f0900a2f5c4853375fd6
  y := 0x14b690866abd5bb88b5f4828c1490002e6773fa2fa299b8f
  order := 0xc302f41d932a36cda7a3462f9e9e916b5be8f1029ac4acc1

/-- A curve over a field of 192 bits. -/
def brainpoolP192t1 : NamedCurve where
  path := [1, 3, 36, 3, 3, 2, 8, 1, 1, 4]
  field := .prime 0xc302f41d932a36cda7a3463093d18db78fce476de1a86297
  a := 0xc302f41d932a36cda7a3463093d18db78fce476de1a86294
  b := 0x13d56ffaec78681e68f9deb43b35bec2fb68542e27897b79
  x := 0x3ae9e58c82f63c30282e1fe7bbf43fa72c446af6f4618129
  y := 0x97e2c5667c2223a902ab5ca449d0084b7e5b3de7ccc01c9
  order := 0xc302f41d932a36cda7a3462f9e9e916b5be8f1029ac4acc1

/-- A curve over a field of 224 bits. -/
def brainpoolP224r1 : NamedCurve where
  path := [1, 3, 36, 3, 3, 2, 8, 1, 1, 5]
  field := .prime 0xd7c134aa264366862a18302575d1d787b09f075797da89f57ec8c0ff
  a := 0x68a5e62ca9ce6c1c299803a6c1530b514e182ad8b0042a59cad29f43
  b := 0x2580f63ccfe44138870713b1a92369e33e2135d266dbb372386c400b
  x := 0xd9029ad2c7e5cf4340823b2a87dc68c9e4ce3174c1e6efdee12c07d
  y := 0x58aa56f772c0726f24c6b89e4ecdac24354b9e99caa3f6d3761402cd
  order := 0xd7c134aa264366862a18302575d0fb98d116bc4b6ddebca3a5a7939f

/-- A curve over a field of 224 bits. -/
def brainpoolP224t1 : NamedCurve where
  path := [1, 3, 36, 3, 3, 2, 8, 1, 1, 6]
  field := .prime 0xd7c134aa264366862a18302575d1d787b09f075797da89f57ec8c0ff
  a := 0xd7c134aa264366862a18302575d1d787b09f075797da89f57ec8c0fc
  b := 0x4b337d934104cd7bef271bf60ced1ed20da14c08b3bb64f18a60888d
  x := 0x6ab1e344ce25ff3896424e7ffe14762ecb49f8928ac0c76029b4d580
  y := 0x374e9f5143e568cd23f3f4d7c0d4b1e41c8cc0d1c6abd5f1a46db4c
  order := 0xd7c134aa264366862a18302575d0fb98d116bc4b6ddebca3a5a7939f

/-- A curve over a field of 256 bits. -/
def brainpoolP256r1 : NamedCurve where
  path := [1, 3, 36, 3, 3, 2, 8, 1, 1, 7]
  field := .prime 0xa9fb57dba1eea9bc3e660a909d838d726e3bf623d52620282013481d1f6e5377
  a := 0x7d5a0975fc2c3057eef67530417affe7fb8055c126dc5c6ce94a4b44f330b5d9
  b := 0x26dc5c6ce94a4b44f330b5d9bbd77cbf958416295cf7e1ce6bccdc18ff8c07b6
  x := 0x8bd2aeb9cb7e57cb2c4b482ffc81b7afb9de27e1e3bd23c23a4453bd9ace3262
  y := 0x547ef835c3dac4fd97f8461a14611dc9c27745132ded8e545c1d54c72f046997
  order := 0xa9fb57dba1eea9bc3e660a909d838d718c397aa3b561a6f7901e0e82974856a7

/-- A curve over a field of 256 bits. -/
def brainpoolP256t1 : NamedCurve where
  path := [1, 3, 36, 3, 3, 2, 8, 1, 1, 8]
  field := .prime 0xa9fb57dba1eea9bc3e660a909d838d726e3bf623d52620282013481d1f6e5377
  a := 0xa9fb57dba1eea9bc3e660a909d838d726e3bf623d52620282013481d1f6e5374
  b := 0x662c61c430d84ea4fe66a7733d0b76b7bf93ebc4af2f49256ae58101fee92b04
  x := 0xa3e8eb3cc1cfe7b7732213b23a656149afa142c47aafbc2b79a191562e1305f4
  y := 0x2d996c823439c56d7f7b22e14644417e69bcb6de39d027001dabe8f35b25c9be
  order := 0xa9fb57dba1eea9bc3e660a909d838d718c397aa3b561a6f7901e0e82974856a7

/-- A curve over a field of 320 bits. -/
def brainpoolP320r1 : NamedCurve where
  path := [1, 3, 36, 3, 3, 2, 8, 1, 1, 9]
  field := .prime 0xd35e472036bc4fb7e13c785ed201e065f98fcfa6f6f40def4f92b9ec7893ec28fcd412b1f1b32e27
  a := 0x3ee30b568fbab0f883ccebd46d3f3bb8a2a73513f5eb79da66190eb085ffa9f492f375a97d860eb4
  b := 0x520883949dfdbc42d3ad198640688a6fe13f41349554b49acc31dccd884539816f5eb4ac8fb1f1a6
  x := 0x43bd7e9afb53d8b85289bcc48ee5bfe6f20137d10a087eb6e7871e2a10a599c710af8d0d39e20611
  y := 0x14fdd05545ec1cc8ab4093247f77275e0743ffed117182eaa9c77877aaac6ac7d35245d1692e8ee1
  order := 0xd35e472036bc4fb7e13c785ed201e065f98fcfa5b68f12a32d482ec7ee8658e98691555b44c59311

/-- A curve over a field of 320 bits. -/
def brainpoolP320t1 : NamedCurve where
  path := [1, 3, 36, 3, 3, 2, 8, 1, 1, 10]
  field := .prime 0xd35e472036bc4fb7e13c785ed201e065f98fcfa6f6f40def4f92b9ec7893ec28fcd412b1f1b32e27
  a := 0xd35e472036bc4fb7e13c785ed201e065f98fcfa6f6f40def4f92b9ec7893ec28fcd412b1f1b32e24
  b := 0xa7f561e038eb1ed560b3d147db782013064c19f27ed27c6780aaf77fb8a547ceb5b4fef422340353
  x := 0x925be9fb01afc6fb4d3e7d4990010f813408ab106c4f09cb7ee07868cc136fff3357f624a21bed52
  y := 0x63ba3a7a27483ebf6671dbef7abb30ebee084e58a0b077ad42a5a0989d1ee71b1b9bc0455fb0d2c3
  order := 0xd35e472036bc4fb7e13c785ed201e065f98fcfa5b68f12a32d482ec7ee8658e98691555b44c59311

/-- A curve over a field of 384 bits. -/
def brainpoolP384r1 : NamedCurve where
  path := [1, 3, 36, 3, 3, 2, 8, 1, 1, 11]
  field := .prime (wide [
    0x8cb91e82a3386d280f5d6f7e50e641df,
    0x152f7109ed5456b412b1da197fb71123acd3a729901d1a71874700133107ec53])
  a := wide [
    0x7bc382c63d8c150c3c72080ace05afa0,
    0xc2bea28e4fb22787139165efba91f90f8aa5814a503ad4eb04a8c7dd22ce2826]
  b := wide [
    0x4a8c7dd22ce28268b39b55416f0447c,
    0x2fb77de107dcd2a62e880ea53eeb62d57cb4390295dbc9943ab78696fa504c11]
  x := wide [
    0x1d1c64f068cf45ffa2a63a81b7c13f6b,
    0x8847a3e77ef14fe3db7fcafe0cbd10e8e826e03436d646aaef87b2e247d4af1e]
  y := wide [
    0x8abe1d7520f9c2a45cb1eb8e95cfd552,
    0x62b70b29feec5864e19c054ff99129280e4646217791811142820341263c5315]
  order := wide [
    0x8cb91e82a3386d280f5d6f7e50e641df,
    0x152f7109ed5456b31f166e6cac0425a7cf3ab6af6b7fc3103b883202e9046565]

/-- A curve over a field of 384 bits. -/
def brainpoolP384t1 : NamedCurve where
  path := [1, 3, 36, 3, 3, 2, 8, 1, 1, 12]
  field := .prime (wide [
    0x8cb91e82a3386d280f5d6f7e50e641df,
    0x152f7109ed5456b412b1da197fb71123acd3a729901d1a71874700133107ec53])
  a := wide [
    0x8cb91e82a3386d280f5d6f7e50e641df,
    0x152f7109ed5456b412b1da197fb71123acd3a729901d1a71874700133107ec50]
  b := wide [
    0x7f519eada7bda81bd826dba647910f8c,
    0x4b9346ed8ccdc64e4b1abd11756dce1d2074aa263b88805ced70355a33b471ee]
  x := wide [
    0x18de98b02db9a306f2afcd7235f72a81,
    0x9b80ab12ebd653172476fecd462aabffc4ff191b946a5f54d8d0aa2f418808cc]
  y := wide [
    0x25ab056962d30651a114afd2755ad336,
    0x747f93475b7a1fca3b88f2b6a208ccfe469408584dc2b2912675bf5b9e582928]
  order := wide [
    0x8cb91e82a3386d280f5d6f7e50e641df,
    0x152f7109ed5456b31f166e6cac0425a7cf3ab6af6b7fc3103b883202e9046565]

/-- A curve over a field of 512 bits. -/
def brainpoolP512r1 : NamedCurve where
  path := [1, 3, 36, 3, 3, 2, 8, 1, 1, 13]
  field := .prime (wide [
    0xaadd9db8dbe9c48b3fd4e6ae33c9fc07cb308db3b3c9d20ed6639cca70330871,
    0x7d4d9b009bc66842aecda12ae6a380e62881ff2f2d82c68528aa6056583a48f3])
  a := wide [
    0x7830a3318b603b89e2327145ac234cc594cbdd8d3df91610a83441caea9863bc,
    0x2ded5d5aa8253aa10a2ef1c98b9ac8b57f1117a72bf2c7b9e7c1ac4d77fc94ca]
  b := wide [
    0x3df91610a83441caea9863bc2ded5d5aa8253aa10a2ef1c98b9ac8b57f1117a7,
    0x2bf2c7b9e7c1ac4d77fc94cadc083e67984050b75ebae5dd2809bd638016f723]
  x := wide [
    0x81aee4bdd82ed9645a21322e9c4c6a9385ed9f70b5d916c1b43b62eef4d0098e,
    0xff3b1f78e2d0d48d50d1687b93b97d5f7c6d5047406a5e688b352209bcb9f822]
  y := wide [
    0x7dde385d566332ecc0eabfa9cf7822fdf209f70024a57b1aa000c55b881f8111,
    0xb2dcde494a5f485e5bca4bd88a2763aed1ca2b2fa8f0540678cd1e0f3ad80892]
  order := wide [
    0xaadd9db8dbe9c48b3fd4e6ae33c9fc07cb308db3b3c9d20ed6639cca70330870,
    0x553e5c414ca92619418661197fac10471db1d381085ddaddb58796829ca90069]

/-- A curve over a field of 512 bits. -/
def brainpoolP512t1 : NamedCurve where
  path := [1, 3, 36, 3, 3, 2, 8, 1, 1, 14]
  field := .prime (wide [
    0xaadd9db8dbe9c48b3fd4e6ae33c9fc07cb308db3b3c9d20ed6639cca70330871,
    0x7d4d9b009bc66842aecda12ae6a380e62881ff2f2d82c68528aa6056583a48f3])
  a := wide [
    0xaadd9db8dbe9c48b3fd4e6ae33c9fc07cb308db3b3c9d20ed6639cca70330871,
    0x7d4d9b009bc66842aecda12ae6a380e62881ff2f2d82c68528aa6056583a48f0]
  b := wide [
    0x7cbbbcf9441cfab76e1890e46884eae321f70c0bcb4981527897504bec3e36a6,
    0x2bcdfa2304976540f6450085f2dae145c22553b465763689180ea2571867423e]
  x := wide [
    0x640ece5c12788717b9c1ba06cbc2a6feba85842458c56dde9db1758d39c0313d,
    0x82ba51735cdb3ea499aa77a7d6943a64f7a3f25fe26f06b51baa2696fa9035da]
  y := wide [
    0x5b534bd595f5af0fa2c892376c84ace1bb4e3019b71634c01131159cae03cee9,
    0xd9932184beef216bd71df2dadf86a627306ecff96dbb8bace198b61e00f8b332]
  order := wide [
    0xaadd9db8dbe9c48b3fd4e6ae33c9fc07cb308db3b3c9d20ed6639cca70330870,
    0x553e5c414ca92619418661197fac10471db1d381085ddaddb58796829ca90069]

/-- A curve over a field of 256 bits. -/
def sm2 : NamedCurve where
  path := [1, 2, 156, 10197, 1, 301]
  field := .prime 0xfffffffeffffffffffffffffffffffffffffffff00000000ffffffffffffffff
  a := 0xfffffffeffffffffffffffffffffffffffffffff00000000fffffffffffffffc
  b := 0x28e9fa9e9d9f5e344d5a9e4bcf6509a7f39789f515ab8f92ddbcbd414d940e93
  x := 0x32c4ae2c1f1981195f9904466a39c9948fe30bbff2660be1715a4589334c74c7
  y := 0xbc3736a2f4f6779c59bdcee36b692153d0a9877cc62a474002df32e52139f0a0
  order := 0xfffffffeffffffffffffffffffffffff7203df6b21c6052b53bbf40939d54123

/-- The known curves of single regions. -/
def regionalCurves : List NamedCurve :=
  [brainpoolP160r1, brainpoolP160t1, brainpoolP192r1, brainpoolP192t1, brainpoolP224r1,
    brainpoolP224t1, brainpoolP256r1, brainpoolP256t1, brainpoolP320r1, brainpoolP320t1,
    brainpoolP384r1, brainpoolP384t1, brainpoolP512r1, brainpoolP512t1, sm2]

end TlsListener.NamedCurve
