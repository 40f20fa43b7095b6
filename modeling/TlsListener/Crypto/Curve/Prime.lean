import TlsListener.Crypto.Curve.Named

/-!
# Known curves over prime fields

The curves over prime fields that certificates name most often, by the number of bits of the field:
some with parameters that were drawn at random, some with small ones for fast computing.
-/

namespace TlsListener.NamedCurve

/-- A curve over a field of 112 bits. -/
def secp112r1 : NamedCurve where
  path := [1, 3, 132, 0, 6]
  field := .prime 0xdb7c2abf62e35e668076bead208b
  a := 0xdb7c2abf62e35e668076bead2088
  b := 0x659ef8ba043916eede8911702b22
  x := 0x9487239995a5ee76b55f9c2f098
  y := 0xa89ce5af8724c0a23e0e0ff77500
  order := 0xdb7c2abf62e35e7628dfac6561c5

/-- A curve over a field of 112 bits. -/
def secp112r2 : NamedCurve where
  path := [1, 3, 132, 0, 7]
  field := .prime 0xdb7c2abf62e35e668076bead208b
  a := 0x6127c24c05f38a0aaaf65c0ef02c
  b := 0x51def1815db5ed74fcc34c85d709
  x := 0x4ba30ab5e892b4e1649dd0928643
  y := 0xadcd46f5882e3747def36e956e97
  order := 0x36df0aafd8b8d7597ca10520d04b
  cofactor := 4

/-- A curve over a field of 128 bits. -/
def secp128r1 : NamedCurve where
  path := [1, 3, 132, 0, 28]
  field := .prime 0xfffffffdffffffffffffffffffffffff
  a := 0xfffffffdfffffffffffffffffffffffc
  b := 0xe87579c11079f43dd824993c2cee5ed3
  x := 0x161ff7528b899b2d0c28607ca52c5b86
  y := 0xcf5ac8395bafeb13c02da292dded7a83
  order := 0xfffffffe0000000075a30d1b9038a115

/-- A curve over a field of 128 bits. -/
def secp128r2 : NamedCurve where
  path := [1, 3, 132, 0, 29]
  field := .prime 0xfffffffdffffffffffffffffffffffff
  a := 0xd6031998d1b3bbfebf59cc9bbff9aee1
  b := 0x5eeefca380d02919dc2c6558bb6d8a5d
  x := 0x7b6aa5d85e572983e6fb32a7cdebc140
  y := 0x27b6916a894d3aee7106fe805fc34b44
  order := 0x3fffffff7fffffffbe0024720613b5a3
  cofactor := 4

/-- A curve over a field of 160 bits. -/
def secp160k1 : NamedCurve where
  path := [1, 3, 132, 0, 9]
  field := .prime 0xfffffffffffffffffffffffffffffffeffffac73
  a := 0
  b := 7
  x := 0x3b4c382ce37aa192a4019e763036f4f5dd4d7ebb
  y := 0x938cf935318fdced6bc28286531733c3f03c4fee
  order := 0x100000000000000000001b8fa16dfab9aca16b6b3

/-- A curve over a field of 160 bits. -/
def secp160r1 : NamedCurve where
  path := [1, 3, 132, 0, 8]
  field := .prime 0xffffffffffffffffffffffffffffffff7fffffff
  a := 0xffffffffffffffffffffffffffffffff7ffffffc
  b := 0x1c97befc54bd7a8b65acf89f81d4d4adc565fa45
  x := 0x4a96b5688ef573284664698968c38bb913cbfc82
  y := 0x23a628553168947d59dcc912042351377ac5fb32
  order := 0x100000000000000000001f4c8f927aed3ca752257

/-- A curve over a field of 160 bits. -/
def secp160r2 : NamedCurve where
  path := [1, 3, 132, 0, 30]
  field := .prime 0xfffffffffffffffffffffffffffffffeffffac73
  a := 0xfffffffffffffffffffffffffffffffeffffac70
  b := 0xb4e134d3fb59eb8bab57274904664d5af50388ba
  x := 0x52dcb034293a117e1f4ff11b30f7199d3144ce6d
  y := 0xfeaffef2e331f296e071fa0df9982cfea7d43f2e
  order := 0x100000000000000000000351ee786a818f3a1a16b

/-- A curve over a field of 192 bits. -/
def secp192k1 : NamedCurve where
  path := [1, 3, 132, 0, 31]
  field := .prime 0xfffffffffffffffffffffffffffffffffffffffeffffee37
  a := 0
  b := 3
  x := 0xdb4ff10ec057e9ae26b07d0280b7f4341da5d1b1eae06c7d
  y := 0x9b2f2f6d9c5628a7844163d015be86344082aa88d95e2f9d
  order := 0xfffffffffffffffffffffffe26f2fc170f69466a74defd8d

/-- A curve over a field of 224 bits. -/
def secp224k1 : NamedCurve where
  path := [1, 3, 132, 0, 32]
  field := .prime 0xfffffffffffffffffffffffffffffffffffffffffffffffeffffe56d
  a := 0
  b := 5
  x := 0xa1455b334df099df30fc28a169a467e9e47075a90f7e650eb6b7a45c
  y := 0x7e089fed7fba344282cafbd6f7e319f7c0b0bd59e2ca4bdb556d61a5
  order := 0x10000000000000000000000000001dce8d2ec6184caf0a971769fb1f7

/-- A curve over a field of 224 bits. -/
def secp224r1 : NamedCurve where
  path := [1, 3, 132, 0, 33]
  field := .prime 0xffffffffffffffffffffffffffffffff000000000000000000000001
  a := 0xfffffffffffffffffffffffffffffffefffffffffffffffffffffffe
  b := 0xb4050a850c04b3abf54132565044b0b7d7bfd8ba270b39432355ffb4
  x := 0xb70e0cbd6bb4bf7f321390b94a03c1d356c21122343280d6115c1d21
  y := 0xbd376388b5f723fb4c22dfe6cd4375a05a07476444d5819985007e34
  order := 0xffffffffffffffffffffffffffff16a2e0b8f03e13dd29455c5c2a3d

/-- A curve over a field of 256 bits. -/
def secp256k1 : NamedCurve where
  path := [1, 3, 132, 0, 10]
  field := .prime 0xfffffffffffffffffffffffffffffffffffffffffffffffffffffffefffffc2f
  a := 0
  b := 7
  x := 0x79be667ef9dcbbac55a06295ce870b07029bfcdb2dce28d959f2815b16f81798
  y := 0x483ada7726a3c4655da4fbfc0e1108a8fd17b448a68554199c47d08ffb10d4b8
  order := 0xfffffffffffffffffffffffffffffffebaaedce6af48a03bbfd25e8cd0364141

/-- A curve over a field of 384 bits. -/
def secp384r1 : NamedCurve where
  path := [1, 3, 132, 0, 34]
  field := .prime (wide [
    0xffffffffffffffffffffffffffffffff,
    0xfffffffffffffffffffffffffffffffeffffffff0000000000000000ffffffff])
  a := wide [
    0xffffffffffffffffffffffffffffffff,
    0xfffffffffffffffffffffffffffffffeffffffff0000000000000000fffffffc]
  b := wide [
    0xb3312fa7e23ee7e4988e056be3f82d19,
    0x181d9c6efe8141120314088f5013875ac656398d8a2ed19d2a85c8edd3ec2aef]
  x := wide [
    0xaa87ca22be8b05378eb1c71ef320ad74,
    0x6e1d3b628ba79b9859f741e082542a385502f25dbf55296c3a545e3872760ab7]
  y := wide [
    0x3617de4a96262c6f5d9e98bf9292dc29,
    0xf8f41dbd289a147ce9da3113b5f0b8c00a60b1ce1d7e819d7a431d7c90ea0e5f]
  order := wide [
    0xffffffffffffffffffffffffffffffff,
    0xffffffffffffffffc7634d81f4372ddf581a0db248b0a77aecec196accc52973]

/-- A curve over a field of 521 bits. -/
def secp521r1 : NamedCurve where
  path := [1, 3, 132, 0, 35]
  field := .prime (wide [
    0x1ff,
    0xffffffffffffffffffffffffffffffffffffffffffffffffffffffffffffffff,
    0xffffffffffffffffffffffffffffffffffffffffffffffffffffffffffffffff])
  a := wide [
    0x1ff,
    0xffffffffffffffffffffffffffffffffffffffffffffffffffffffffffffffff,
    0xfffffffffffffffffffffffffffffffffffffffffffffffffffffffffffffffc]
  b := wide [
    0x51,
    0x953eb9618e1c9a1f929a21a0b68540eea2da725b99b315f3b8b489918ef109e1,
    0x56193951ec7e937b1652c0bd3bb1bf073573df883d2c34f1ef451fd46b503f00]
  x := wide [
    0xc6,
    0x858e06b70404e9cd9e3ecb662395b4429c648139053fb521f828af606b4d3dba,
    0xa14b5e77efe75928fe1dc127a2ffa8de3348b3c1856a429bf97e7e31c2e5bd66]
  y := wide [
    0x118,
    0x39296a789a3bc0045c8a5fb42c7d1bd998f54449579b446817afbd17273e662c,
    0x97ee72995ef42640c550b9013fad0761353c7086a272c24088be94769fd16650]
  order := wide [
    0x1ff,
    0xfffffffffffffffffffffffffffffffffffffffffffffffffffffffffffffffa,
    0x51868783bf2f966b7fcc0148f709a5d03bb5c9b8899c47aebb6fb71e91386409]

/-- A curve over a field of 192 bits. -/
def prime192v1 : NamedCurve where
  path := [1, 2, 840, 10045, 3, 1, 1]
  field := .prime 0xfffffffffffffffffffffffffffffffeffffffffffffffff
  a := 0xfffffffffffffffffffffffffffffffefffffffffffffffc
  b := 0x64210519e59c80e70fa7e9ab72243049feb8deecc146b9b1
  x := 0x188da80eb03090f67cbf20eb43a18800f4ff0afd82ff1012
  y := 0x7192b95ffc8da78631011ed6b24cdd573f977a11e794811
  order := 0xffffffffffffffffffffffff99def836146bc9b1b4d22831

/-- A curve over a field of 192 bits. -/
def prime192v2 : NamedCurve where
  path := [1, 2, 840, 10045, 3, 1, 2]
  field := .prime 0xfffffffffffffffffffffffffffffffeffffffffffffffff
  a := 0xfffffffffffffffffffffffffffffffefffffffffffffffc
  b := 0xcc22d6dfb95c6b25e49c0d6364a4e5980c393aa21668d953
  x := 0xeea2bae7e1497842f2de7769cfe9c989c072ad696f48034a
  y := 0x6574d11d69b6ec7a672bb82a083df2f2b0847de970b2de15
  order := 0xfffffffffffffffffffffffe5fb1a724dc80418648d8dd31

/-- A curve over a field of 192 bits. -/
def prime192v3 : NamedCurve where
  path := [1, 2, 840, 10045, 3, 1, 3]
  field := .prime 0xfffffffffffffffffffffffffffffffeffffffffffffffff
  a := 0xfffffffffffffffffffffffffffffffefffffffffffffffc
  b := 0x22123dc2395a05caa7423daeccc94760a7d462256bd56916
  x := 0x7d29778100c65a1da1783716588dce2b8b4aee8e228f1896
  y := 0x38a90f22637337334b49dcb66a6dc8f9978aca7648a943b0
  order := 0xffffffffffffffffffffffff7a62d031c83f4294f640ec13

/-- A curve over a field of 239 bits. -/
def prime239v1 : NamedCurve where
  path := [1, 2, 840, 10045, 3, 1, 4]
  field := .prime 0x7fffffffffffffffffffffff7fffffffffff8000000000007fffffffffff
  a := 0x7fffffffffffffffffffffff7fffffffffff8000000000007ffffffffffc
  b := 0x6b016c3bdcf18941d0d654921475ca71a9db2fb27d1d37796185c2942c0a
  x := 0xffa963cdca8816ccc33b8642bedf905c3d358573d3f27fbbd3b3cb9aaaf
  y := 0x7debe8e4e90a5dae6e4054ca530ba04654b36818ce226b39fccb7b02f1ae
  order := 0x7fffffffffffffffffffffff7fffff9e5e9a9f5d9071fbd1522688909d0b

/-- A curve over a field of 239 bits. -/
def prime239v2 : NamedCurve where
  path := [1, 2, 840, 10045, 3, 1, 5]
  field := .prime 0x7fffffffffffffffffffffff7fffffffffff8000000000007fffffffffff
  a := 0x7fffffffffffffffffffffff7fffffffffff8000000000007ffffffffffc
  b := 0x617fab6832576cbbfed50d99f0249c3fee58b94ba0038c7ae84c8c832f2c
  x := 0x38af09d98727705120c921bb5e9e26296a3cdcf2f35757a0eafd87b830e7
  y := 0x5b0125e4dbea0ec7206da0fc01d9b081329fb555de6ef460237dff8be4ba
  order := 0x7fffffffffffffffffffffff800000cfa7e8594377d414c03821bc582063

/-- A curve over a field of 239 bits. -/
def prime239v3 : NamedCurve where
  path := [1, 2, 840, 10045, 3, 1, 6]
  field := .prime 0x7fffffffffffffffffffffff7fffffffffff8000000000007fffffffffff
  a := 0x7fffffffffffffffffffffff7fffffffffff8000000000007ffffffffffc
  b := 0x255705fa2a306654b1f4cb03d6a750a30c250102d4988717d9ba15ab6d3e
  x := 0x6768ae8e18bb92cfcf005c949aa2c6d94853d0e660bbf854b1c9505fe95a
  y := 0x1607e6898f390c06bc1d552bad226f3b6fcfe48b6e818499af18e3ed6cf3
  order := 0x7fffffffffffffffffffffff7fffff975deb41b3a6057c3c432146526551

/-- A curve over a field of 256 bits. -/
def prime256v1 : NamedCurve where
  path := [1, 2, 840, 10045, 3, 1, 7]
  field := .prime 0xffffffff00000001000000000000000000000000ffffffffffffffffffffffff
  a := 0xffffffff00000001000000000000000000000000fffffffffffffffffffffffc
  b := 0x5ac635d8aa3a93e7b3ebbd55769886bc651d06b0cc53b0f63bce3c3e27d2604b
  x := 0x6b17d1f2e12c4247f8bce6e563a440f277037d812deb33a0f4a13945d898c296
  y := 0x4fe342e2fe1a7f9b8ee7eb4a7c0f9e162bce33576b315ececbb6406837bf51f5
  order := 0xffffffff00000000ffffffffffffffffbce6faada7179e84f3b9cac2fc632551

/-- Another name of a curve. -/
def wtls6 : NamedCurve := { secp112r1 with path := [2, 23, 43, 1, 4, 6] }

/-- Another name of a curve. -/
def wtls7 : NamedCurve := { secp160r2 with path := [2, 23, 43, 1, 4, 7] }

/-- A curve over a field of 112 bits. -/
def wtls8 : NamedCurve where
  path := [2, 23, 43, 1, 4, 8]
  field := .prime 0xfffffffffffffffffffffffffde7
  a := 0
  b := 3
  x := 1
  y := 2
  order := 0x100000000000001ecea551ad837e9

/-- A curve over a field of 160 bits. -/
def wtls9 : NamedCurve where
  path := [2, 23, 43, 1, 4, 9]
  field := .prime 0xfffffffffffffffffffffffffffffffffffc808f
  a := 0
  b := 3
  x := 1
  y := 2
  order := 0x100000000000000000001cdc98ae0e2de574abf33

/-- Another name of a curve. -/
def wtls12 : NamedCurve := { secp224r1 with path := [2, 23, 43, 1, 4, 12] }

/-- The known curves over prime fields. -/
def primeCurves : List NamedCurve :=
  [secp112r1, secp112r2, secp128r1, secp128r2, secp160k1, secp160r1, secp160r2, secp192k1,
    secp224k1, secp224r1, secp256k1, secp384r1, secp521r1, prime192v1, prime192v2, prime192v3,
    prime239v1, prime239v2, prime239v3, prime256v1, wtls6, wtls7, wtls8, wtls9, wtls12]

end TlsListener.NamedCurve
