import MailTriage.Text.RangeTable

/-!
# Letter case

Lower case for addresses and host names, case folding for comparisons, and the relation of
characters that patterns take for one another when case is ignored. Folding maps each character on
its own, so it distributes over concatenation; lower case looks at its neighbours for one letter,
the final sigma.
-/

namespace MailTriage.Text

/-- Lower-case images beyond ASCII, one code point each. -/
def lowerTable : ShiftTable := ShiftTable.ofRuns
  [⟨0xc0, 0xd6, 1, 0x20⟩, ⟨0xd8, 0xde, 1, 0x20⟩, ⟨0x100, 0x12e, 2, 0x1⟩, ⟨0x130, 0x130, 1, -0xc7⟩,
   ⟨0x132, 0x136, 2, 0x1⟩, ⟨0x139, 0x147, 2, 0x1⟩, ⟨0x14a, 0x176, 2, 0x1⟩, ⟨0x178, 0x178, 1, -0x79⟩,
   ⟨0x179, 0x17d, 2, 0x1⟩, ⟨0x181, 0x181, 1, 0xd2⟩, ⟨0x182, 0x184, 2, 0x1⟩, ⟨0x186, 0x186, 1, 0xce⟩,
   ⟨0x187, 0x187, 1, 0x1⟩, ⟨0x189, 0x18a, 1, 0xcd⟩, ⟨0x18b, 0x18b, 1, 0x1⟩, ⟨0x18e, 0x18e, 1, 0x4f⟩,
   ⟨0x18f, 0x18f, 1, 0xca⟩, ⟨0x190, 0x190, 1, 0xcb⟩, ⟨0x191, 0x191, 1, 0x1⟩,
     ⟨0x193, 0x193, 1, 0xcd⟩,
   ⟨0x194, 0x194, 1, 0xcf⟩, ⟨0x196, 0x196, 1, 0xd3⟩, ⟨0x197, 0x197, 1, 0xd1⟩,
     ⟨0x198, 0x198, 1, 0x1⟩,
   ⟨0x19c, 0x19c, 1, 0xd3⟩, ⟨0x19d, 0x19d, 1, 0xd5⟩, ⟨0x19f, 0x19f, 1, 0xd6⟩,
     ⟨0x1a0, 0x1a4, 2, 0x1⟩,
   ⟨0x1a6, 0x1a6, 1, 0xda⟩, ⟨0x1a7, 0x1a7, 1, 0x1⟩, ⟨0x1a9, 0x1a9, 1, 0xda⟩, ⟨0x1ac, 0x1ac, 1, 0x1⟩,
   ⟨0x1ae, 0x1ae, 1, 0xda⟩, ⟨0x1af, 0x1af, 1, 0x1⟩, ⟨0x1b1, 0x1b2, 1, 0xd9⟩, ⟨0x1b3, 0x1b5, 2, 0x1⟩,
   ⟨0x1b7, 0x1b7, 1, 0xdb⟩, ⟨0x1b8, 0x1b8, 1, 0x1⟩, ⟨0x1bc, 0x1bc, 1, 0x1⟩, ⟨0x1c4, 0x1c4, 1, 0x2⟩,
   ⟨0x1c5, 0x1c5, 1, 0x1⟩, ⟨0x1c7, 0x1c7, 1, 0x2⟩, ⟨0x1c8, 0x1c8, 1, 0x1⟩, ⟨0x1ca, 0x1ca, 1, 0x2⟩,
   ⟨0x1cb, 0x1db, 2, 0x1⟩, ⟨0x1de, 0x1ee, 2, 0x1⟩, ⟨0x1f1, 0x1f1, 1, 0x2⟩, ⟨0x1f2, 0x1f4, 2, 0x1⟩,
   ⟨0x1f6, 0x1f6, 1, -0x61⟩, ⟨0x1f7, 0x1f7, 1, -0x38⟩, ⟨0x1f8, 0x21e, 2, 0x1⟩,
   ⟨0x220, 0x220, 1, -0x82⟩, ⟨0x222, 0x232, 2, 0x1⟩, ⟨0x23a, 0x23a, 1, 0x2a2b⟩,
     ⟨0x23b, 0x23b, 1, 0x1⟩,
   ⟨0x23d, 0x23d, 1, -0xa3⟩, ⟨0x23e, 0x23e, 1, 0x2a28⟩, ⟨0x241, 0x241, 1, 0x1⟩,
   ⟨0x243, 0x243, 1, -0xc3⟩, ⟨0x244, 0x244, 1, 0x45⟩, ⟨0x245, 0x245, 1, 0x47⟩,
     ⟨0x246, 0x24e, 2, 0x1⟩,
   ⟨0x370, 0x372, 2, 0x1⟩, ⟨0x376, 0x376, 1, 0x1⟩, ⟨0x37f, 0x37f, 1, 0x74⟩, ⟨0x386, 0x386, 1, 0x26⟩,
   ⟨0x388, 0x38a, 1, 0x25⟩, ⟨0x38c, 0x38c, 1, 0x40⟩, ⟨0x38e, 0x38f, 1, 0x3f⟩,
     ⟨0x391, 0x3a1, 1, 0x20⟩,
   ⟨0x3a3, 0x3ab, 1, 0x20⟩, ⟨0x3cf, 0x3cf, 1, 0x8⟩, ⟨0x3d8, 0x3ee, 2, 0x1⟩,
     ⟨0x3f4, 0x3f4, 1, -0x3c⟩,
   ⟨0x3f7, 0x3f7, 1, 0x1⟩, ⟨0x3f9, 0x3f9, 1, -0x7⟩, ⟨0x3fa, 0x3fa, 1, 0x1⟩,
     ⟨0x3fd, 0x3ff, 1, -0x82⟩,
   ⟨0x400, 0x40f, 1, 0x50⟩, ⟨0x410, 0x42f, 1, 0x20⟩, ⟨0x460, 0x480, 2, 0x1⟩, ⟨0x48a, 0x4be, 2, 0x1⟩,
   ⟨0x4c0, 0x4c0, 1, 0xf⟩, ⟨0x4c1, 0x4cd, 2, 0x1⟩, ⟨0x4d0, 0x52e, 2, 0x1⟩, ⟨0x531, 0x556, 1, 0x30⟩,
   ⟨0x10a0, 0x10c5, 1, 0x1c60⟩, ⟨0x10c7, 0x10c7, 1, 0x1c60⟩, ⟨0x10cd, 0x10cd, 1, 0x1c60⟩,
   ⟨0x13a0, 0x13ef, 1, 0x97d0⟩, ⟨0x13f0, 0x13f5, 1, 0x8⟩, ⟨0x1c90, 0x1cba, 1, -0xbc0⟩,
   ⟨0x1cbd, 0x1cbf, 1, -0xbc0⟩, ⟨0x1e00, 0x1e94, 2, 0x1⟩, ⟨0x1e9e, 0x1e9e, 1, -0x1dbf⟩,
   ⟨0x1ea0, 0x1efe, 2, 0x1⟩, ⟨0x1f08, 0x1f0f, 1, -0x8⟩, ⟨0x1f18, 0x1f1d, 1, -0x8⟩,
   ⟨0x1f28, 0x1f2f, 1, -0x8⟩, ⟨0x1f38, 0x1f3f, 1, -0x8⟩, ⟨0x1f48, 0x1f4d, 1, -0x8⟩,
   ⟨0x1f59, 0x1f5f, 2, -0x8⟩, ⟨0x1f68, 0x1f6f, 1, -0x8⟩, ⟨0x1f88, 0x1f8f, 1, -0x8⟩,
   ⟨0x1f98, 0x1f9f, 1, -0x8⟩, ⟨0x1fa8, 0x1faf, 1, -0x8⟩, ⟨0x1fb8, 0x1fb9, 1, -0x8⟩,
   ⟨0x1fba, 0x1fbb, 1, -0x4a⟩, ⟨0x1fbc, 0x1fbc, 1, -0x9⟩, ⟨0x1fc8, 0x1fcb, 1, -0x56⟩,
   ⟨0x1fcc, 0x1fcc, 1, -0x9⟩, ⟨0x1fd8, 0x1fd9, 1, -0x8⟩, ⟨0x1fda, 0x1fdb, 1, -0x64⟩,
   ⟨0x1fe8, 0x1fe9, 1, -0x8⟩, ⟨0x1fea, 0x1feb, 1, -0x70⟩, ⟨0x1fec, 0x1fec, 1, -0x7⟩,
   ⟨0x1ff8, 0x1ff9, 1, -0x80⟩, ⟨0x1ffa, 0x1ffb, 1, -0x7e⟩, ⟨0x1ffc, 0x1ffc, 1, -0x9⟩,
   ⟨0x2126, 0x2126, 1, -0x1d5d⟩, ⟨0x212a, 0x212a, 1, -0x20bf⟩, ⟨0x212b, 0x212b, 1, -0x2046⟩,
   ⟨0x2132, 0x2132, 1, 0x1c⟩, ⟨0x2160, 0x216f, 1, 0x10⟩, ⟨0x2183, 0x2183, 1, 0x1⟩,
   ⟨0x24b6, 0x24cf, 1, 0x1a⟩, ⟨0x2c00, 0x2c2f, 1, 0x30⟩, ⟨0x2c60, 0x2c60, 1, 0x1⟩,
   ⟨0x2c62, 0x2c62, 1, -0x29f7⟩, ⟨0x2c63, 0x2c63, 1, -0xee6⟩, ⟨0x2c64, 0x2c64, 1, -0x29e7⟩,
   ⟨0x2c67, 0x2c6b, 2, 0x1⟩, ⟨0x2c6d, 0x2c6d, 1, -0x2a1c⟩, ⟨0x2c6e, 0x2c6e, 1, -0x29fd⟩,
   ⟨0x2c6f, 0x2c6f, 1, -0x2a1f⟩, ⟨0x2c70, 0x2c70, 1, -0x2a1e⟩, ⟨0x2c72, 0x2c72, 1, 0x1⟩,
   ⟨0x2c75, 0x2c75, 1, 0x1⟩, ⟨0x2c7e, 0x2c7f, 1, -0x2a3f⟩, ⟨0x2c80, 0x2ce2, 2, 0x1⟩,
   ⟨0x2ceb, 0x2ced, 2, 0x1⟩, ⟨0x2cf2, 0x2cf2, 1, 0x1⟩, ⟨0xa640, 0xa66c, 2, 0x1⟩,
   ⟨0xa680, 0xa69a, 2, 0x1⟩, ⟨0xa722, 0xa72e, 2, 0x1⟩, ⟨0xa732, 0xa76e, 2, 0x1⟩,
   ⟨0xa779, 0xa77b, 2, 0x1⟩, ⟨0xa77d, 0xa77d, 1, -0x8a04⟩, ⟨0xa77e, 0xa786, 2, 0x1⟩,
   ⟨0xa78b, 0xa78b, 1, 0x1⟩, ⟨0xa78d, 0xa78d, 1, -0xa528⟩, ⟨0xa790, 0xa792, 2, 0x1⟩,
   ⟨0xa796, 0xa7a8, 2, 0x1⟩, ⟨0xa7aa, 0xa7aa, 1, -0xa544⟩, ⟨0xa7ab, 0xa7ab, 1, -0xa54f⟩,
   ⟨0xa7ac, 0xa7ac, 1, -0xa54b⟩, ⟨0xa7ad, 0xa7ad, 1, -0xa541⟩, ⟨0xa7ae, 0xa7ae, 1, -0xa544⟩,
   ⟨0xa7b0, 0xa7b0, 1, -0xa512⟩, ⟨0xa7b1, 0xa7b1, 1, -0xa52a⟩, ⟨0xa7b2, 0xa7b2, 1, -0xa515⟩,
   ⟨0xa7b3, 0xa7b3, 1, 0x3a0⟩, ⟨0xa7b4, 0xa7c2, 2, 0x1⟩, ⟨0xa7c4, 0xa7c4, 1, -0x30⟩,
   ⟨0xa7c5, 0xa7c5, 1, -0xa543⟩, ⟨0xa7c6, 0xa7c6, 1, -0x8a38⟩, ⟨0xa7c7, 0xa7c9, 2, 0x1⟩,
   ⟨0xa7d0, 0xa7d0, 1, 0x1⟩, ⟨0xa7d6, 0xa7d8, 2, 0x1⟩, ⟨0xa7f5, 0xa7f5, 1, 0x1⟩,
   ⟨0xff21, 0xff3a, 1, 0x20⟩, ⟨0x10400, 0x10427, 1, 0x28⟩, ⟨0x104b0, 0x104d3, 1, 0x28⟩,
   ⟨0x10570, 0x1057a, 1, 0x27⟩, ⟨0x1057c, 0x1058a, 1, 0x27⟩, ⟨0x1058c, 0x10592, 1, 0x27⟩,
   ⟨0x10594, 0x10595, 1, 0x27⟩, ⟨0x10c80, 0x10cb2, 1, 0x40⟩, ⟨0x118a0, 0x118bf, 1, 0x20⟩,
   ⟨0x16e40, 0x16e5f, 1, 0x20⟩, ⟨0x1e900, 0x1e921, 1, 0x22⟩]

/-- Case foldings beyond ASCII to one code point. -/
def foldTable : ShiftTable := ShiftTable.ofWords
  ["b5+307 c0-d6+20 d8-de+20 100-12e/2+1 132-136/2+1 139-147/2+1 14a-176/2+1 178~79 179-17d/2+1",
   "17f~10c 181+d2 182-184/2+1 186+ce 187+1 189-18a+cd 18b+1 18e+4f 18f+ca 190+cb 191+1 193+cd",
   "194+cf 196+d3 197+d1 198+1 19c+d3 19d+d5 19f+d6 1a0-1a4/2+1 1a6+da 1a7+1 1a9+da 1ac+1 1ae+da",
   "1af+1 1b1-1b2+d9 1b3-1b5/2+1 1b7+db 1b8+1 1bc+1 1c4+2 1c5+1 1c7+2 1c8+1 1ca+2 1cb-1db/2+1",
   "1de-1ee/2+1 1f1+2 1f2-1f4/2+1 1f6~61 1f7~38 1f8-21e/2+1 220~82 222-232/2+1 23a+2a2b 23b+1",
   "23d~a3 23e+2a28 241+1 243~c3 244+45 245+47 246-24e/2+1 345+74 370-372/2+1 376+1 37f+74 386+26",
   "388-38a+25 38c+40 38e-38f+3f 391-3a1+20 3a3-3ab+20 3c2+1 3cf+8 3d0~1e 3d1~19 3d5~f 3d6~16",
   "3d8-3ee/2+1 3f0~36 3f1~30 3f4~3c 3f5~40 3f7+1 3f9~7 3fa+1 3fd-3ff~82 400-40f+50 410-42f+20",
   "460-480/2+1 48a-4be/2+1 4c0+f 4c1-4cd/2+1 4d0-52e/2+1 531-556+30 10a0-10c5+1c60 10c7+1c60",
   "10cd+1c60 13f8-13fd~8 1c80~184e 1c81~184d 1c82~1844 1c83-1c84~1842 1c85~1843 1c86~183c",
   "1c87~1824 1c88+89c3 1c90-1cba~bc0 1cbd-1cbf~bc0 1e00-1e94/2+1 1e9b~3a 1ea0-1efe/2+1",
   "1f08-1f0f~8 1f18-1f1d~8 1f28-1f2f~8 1f38-1f3f~8 1f48-1f4d~8 1f59-1f5f/2~8 1f68-1f6f~8",
   "1fb8-1fb9~8 1fba-1fbb~4a 1fbe~1c05 1fc8-1fcb~56 1fd8-1fd9~8 1fda-1fdb~64 1fe8-1fe9~8",
   "1fea-1feb~70 1fec~7 1ff8-1ff9~80 1ffa-1ffb~7e 2126~1d5d 212a~20bf 212b~2046 2132+1c",
   "2160-216f+10 2183+1 24b6-24cf+1a 2c00-2c2f+30 2c60+1 2c62~29f7 2c63~ee6 2c64~29e7",
   "2c67-2c6b/2+1 2c6d~2a1c 2c6e~29fd 2c6f~2a1f 2c70~2a1e 2c72+1 2c75+1 2c7e-2c7f~2a3f",
   "2c80-2ce2/2+1 2ceb-2ced/2+1 2cf2+1 a640-a66c/2+1 a680-a69a/2+1 a722-a72e/2+1 a732-a76e/2+1",
   "a779-a77b/2+1 a77d~8a04 a77e-a786/2+1 a78b+1 a78d~a528 a790-a792/2+1 a796-a7a8/2+1 a7aa~a544",
   "a7ab~a54f a7ac~a54b a7ad~a541 a7ae~a544 a7b0~a512 a7b1~a52a a7b2~a515 a7b3+3a0 a7b4-a7c2/2+1",
   "a7c4~30 a7c5~a543 a7c6~8a38 a7c7-a7c9/2+1 a7d0+1 a7d6-a7d8/2+1 a7f5+1 ab70-abbf~97d0",
   "ff21-ff3a+20 10400-10427+28 104b0-104d3+28 10570-1057a+27 1057c-1058a+27 1058c-10592+27",
   "10594-10595+27 10c80-10cb2+40 118a0-118bf+20 16e40-16e5f+20 1e900-1e921+22"]

/-- Case foldings to several code points, as `code:image,image`. -/
def longFoldings : List (Nat × List Nat) := (wordsOf
  ["df:73,73 130:69,307 149:2bc,6e 1f0:6a,30c 390:3b9,308,301 3b0:3c5,308,301 587:565,582",
   "1e96:68,331 1e97:74,308 1e98:77,30a 1e99:79,30a 1e9a:61,2be 1e9e:73,73 1f50:3c5,313",
   "1f52:3c5,313,300 1f54:3c5,313,301 1f56:3c5,313,342 1f80:1f00,3b9 1f81:1f01,3b9 1f82:1f02,3b9",
   "1f83:1f03,3b9 1f84:1f04,3b9 1f85:1f05,3b9 1f86:1f06,3b9 1f87:1f07,3b9 1f88:1f00,3b9",
   "1f89:1f01,3b9 1f8a:1f02,3b9 1f8b:1f03,3b9 1f8c:1f04,3b9 1f8d:1f05,3b9 1f8e:1f06,3b9",
   "1f8f:1f07,3b9 1f90:1f20,3b9 1f91:1f21,3b9 1f92:1f22,3b9 1f93:1f23,3b9 1f94:1f24,3b9",
   "1f95:1f25,3b9 1f96:1f26,3b9 1f97:1f27,3b9 1f98:1f20,3b9 1f99:1f21,3b9 1f9a:1f22,3b9",
   "1f9b:1f23,3b9 1f9c:1f24,3b9 1f9d:1f25,3b9 1f9e:1f26,3b9 1f9f:1f27,3b9 1fa0:1f60,3b9",
   "1fa1:1f61,3b9 1fa2:1f62,3b9 1fa3:1f63,3b9 1fa4:1f64,3b9 1fa5:1f65,3b9 1fa6:1f66,3b9",
   "1fa7:1f67,3b9 1fa8:1f60,3b9 1fa9:1f61,3b9 1faa:1f62,3b9 1fab:1f63,3b9 1fac:1f64,3b9",
   "1fad:1f65,3b9 1fae:1f66,3b9 1faf:1f67,3b9 1fb2:1f70,3b9 1fb3:3b1,3b9 1fb4:3ac,3b9",
   "1fb6:3b1,342 1fb7:3b1,342,3b9 1fbc:3b1,3b9 1fc2:1f74,3b9 1fc3:3b7,3b9 1fc4:3ae,3b9",
   "1fc6:3b7,342 1fc7:3b7,342,3b9 1fcc:3b7,3b9 1fd2:3b9,308,300 1fd3:3b9,308,301 1fd6:3b9,342",
   "1fd7:3b9,308,342 1fe2:3c5,308,300 1fe3:3c5,308,301 1fe4:3c1,313 1fe6:3c5,342 1fe7:3c5,308,342",
   "1ff2:1f7c,3b9 1ff3:3c9,3b9 1ff4:3ce,3b9 1ff6:3c9,342 1ff7:3c9,342,3b9 1ffc:3c9,3b9 fb00:66,66",
   "fb01:66,69 fb02:66,6c fb03:66,66,69 fb04:66,66,6c fb05:73,74 fb06:73,74 fb13:574,576",
   "fb14:574,565 fb15:574,56b fb16:57e,576 fb17:574,56d"]).map fun word =>
  match cutAt ':' word with
  | (code, images) =>
    (hexNumber code, (splitAll ',' (images.getD [])).map hexNumber)

/-- Characters beyond ASCII whose lower or upper case differs from them. -/
def casedTable : RangeTable := RangeTable.ofWords
  ["b5 c0-d6 d8-f6 f8-137 139-18c 18e-19a 19c-1a9 1ac-1b9 1bc-1bd 1bf 1c4-220 222-233 23a-254",
   "256-257 259 25b-25c 260-261 263 265-266 268-26c 26f 271-272 275 27d 280 282-283 287-28c 292",
   "29d-29e 345 370-373 376-377 37b-37d 37f 386 388-38a 38c 38e-3a1 3a3-3d1 3d5-3f5 3f7-3fb",
   "3fd-481 48a-52f 531-556 561-587 10a0-10c5 10c7 10cd 10d0-10fa 10fd-10ff 13a0-13f5 13f8-13fd",
   "1c80-1c88 1c90-1cba 1cbd-1cbf 1d79 1d7d 1d8e 1e00-1e9b 1e9e 1ea0-1f15 1f18-1f1d 1f20-1f45",
   "1f48-1f4d 1f50-1f57 1f59 1f5b 1f5d 1f5f-1f7d 1f80-1fb4 1fb6-1fbc 1fbe 1fc2-1fc4 1fc6-1fcc",
   "1fd0-1fd3 1fd6-1fdb 1fe0-1fec 1ff2-1ff4 1ff6-1ffc 2126 212a-212b 2132 214e 2160-217f",
   "2183-2184 24b6-24e9 2c00-2c70 2c72-2c73 2c75-2c76 2c7e-2ce3 2ceb-2cee 2cf2-2cf3 2d00-2d25",
   "2d27 2d2d a640-a66d a680-a69b a722-a72f a732-a76f a779-a787 a78b-a78d a790-a794 a796-a7ae",
   "a7b0-a7ca a7d0-a7d1 a7d6-a7d9 a7f5-a7f6 ab53 ab70-abbf fb00-fb06 fb13-fb17 ff21-ff3a",
   "ff41-ff5a 10400-1044f 104b0-104d3 104d8-104fb 10570-1057a 1057c-1058a 1058c-10592 10594-10595",
   "10597-105a1 105a3-105b1 105b3-105b9 105bb-105bc 10c80-10cb2 10cc0-10cf2 118a0-118df",
   "16e40-16e7f 1e900-1e943"]

/-- Cased characters beyond ASCII that a sigma looks for on its left and right. -/
def sigmaCasedTable : RangeTable := RangeTable.ofWords
  ["aa b5 ba c0-d6 d8-f6 f8-1ba 1bc-1bf 1c4-293 295-2af 370-373 376-377 37b-37d 37f 386 388-38a",
   "38c 38e-3a1 3a3-3f5 3f7-481 48a-52f 531-556 560-588 10a0-10c5 10c7 10cd 10d0-10fa 10fd-10ff",
   "13a0-13f5 13f8-13fd 1c80-1c88 1c90-1cba 1cbd-1cbf 1d00-1d2b 1d6b-1d77 1d79-1d9a 1e00-1f15",
   "1f18-1f1d 1f20-1f45 1f48-1f4d 1f50-1f57 1f59 1f5b 1f5d 1f5f-1f7d 1f80-1fb4 1fb6-1fbc 1fbe",
   "1fc2-1fc4 1fc6-1fcc 1fd0-1fd3 1fd6-1fdb 1fe0-1fec 1ff2-1ff4 1ff6-1ffc 2102 2107 210a-2113",
   "2115 2119-211d 2124 2126 2128 212a-212d 212f-2134 2139 213c-213f 2145-2149 214e 2160-217f",
   "2183-2184 24b6-24e9 2c00-2c7b 2c7e-2ce4 2ceb-2cee 2cf2-2cf3 2d00-2d25 2d27 2d2d a640-a66d",
   "a680-a69b a722-a76f a771-a787 a78b-a78e a790-a7ca a7d0-a7d1 a7d3 a7d5-a7d9 a7f5-a7f6 a7fa",
   "ab30-ab5a ab60-ab68 ab70-abbf fb00-fb06 fb13-fb17 ff21-ff3a ff41-ff5a 10400-1044f 104b0-104d3",
   "104d8-104fb 10570-1057a 1057c-1058a 1058c-10592 10594-10595 10597-105a1 105a3-105b1",
   "105b3-105b9 105bb-105bc 10c80-10cb2 10cc0-10cf2 118a0-118df 16e40-16e7f 1d400-1d454",
   "1d456-1d49c 1d49e-1d49f 1d4a2 1d4a5-1d4a6 1d4a9-1d4ac 1d4ae-1d4b9 1d4bb 1d4bd-1d4c3",
   "1d4c5-1d505 1d507-1d50a 1d50d-1d514 1d516-1d51c 1d51e-1d539 1d53b-1d53e 1d540-1d544 1d546",
   "1d54a-1d550 1d552-1d6a5 1d6a8-1d6c0 1d6c2-1d6da 1d6dc-1d6fa 1d6fc-1d714 1d716-1d734",
   "1d736-1d74e 1d750-1d76e 1d770-1d788 1d78a-1d7a8 1d7aa-1d7c2 1d7c4-1d7cb 1df00-1df09",
   "1df0b-1df1e 1e900-1e943 1f130-1f149 1f150-1f169 1f170-1f189"]

/-- Characters beyond ASCII that a sigma looks past. -/
def caseIgnorableTable : RangeTable := RangeTable.ofWords
  ["a8 ad af b4 b7-b8 2b0-36f 374-375 37a 384-385 387 483-489 559 55f 591-5bd 5bf 5c1-5c2 5c4-5c5",
   "5c7 5f4 600-605 610-61a 61c 640 64b-65f 670 6d6-6dd 6df-6e8 6ea-6ed 70f 711 730-74a 7a6-7b0",
   "7eb-7f5 7fa 7fd 816-82d 859-85b 888 890-891 898-89f 8c9-902 93a 93c 941-948 94d 951-957",
   "962-963 971 981 9bc 9c1-9c4 9cd 9e2-9e3 9fe a01-a02 a3c a41-a42 a47-a48 a4b-a4d a51 a70-a71",
   "a75 a81-a82 abc ac1-ac5 ac7-ac8 acd ae2-ae3 afa-aff b01 b3c b3f b41-b44 b4d b55-b56 b62-b63",
   "b82 bc0 bcd c00 c04 c3c c3e-c40 c46-c48 c4a-c4d c55-c56 c62-c63 c81 cbc cbf cc6 ccc-ccd",
   "ce2-ce3 d00-d01 d3b-d3c d41-d44 d4d d62-d63 d81 dca dd2-dd4 dd6 e31 e34-e3a e46-e4e eb1",
   "eb4-ebc ec6 ec8-ecd f18-f19 f35 f37 f39 f71-f7e f80-f84 f86-f87 f8d-f97 f99-fbc fc6 102d-1030",
   "1032-1037 1039-103a 103d-103e 1058-1059 105e-1060 1071-1074 1082 1085-1086 108d 109d 10fc",
   "135d-135f 1712-1714 1732-1733 1752-1753 1772-1773 17b4-17b5 17b7-17bd 17c6 17c9-17d3 17d7",
   "17dd 180b-180f 1843 1885-1886 18a9 1920-1922 1927-1928 1932 1939-193b 1a17-1a18 1a1b 1a56",
   "1a58-1a5e 1a60 1a62 1a65-1a6c 1a73-1a7c 1a7f 1aa7 1ab0-1ace 1b00-1b03 1b34 1b36-1b3a 1b3c",
   "1b42 1b6b-1b73 1b80-1b81 1ba2-1ba5 1ba8-1ba9 1bab-1bad 1be6 1be8-1be9 1bed 1bef-1bf1",
   "1c2c-1c33 1c36-1c37 1c78-1c7d 1cd0-1cd2 1cd4-1ce0 1ce2-1ce8 1ced 1cf4 1cf8-1cf9 1d2c-1d6a",
   "1d78 1d9b-1dff 1fbd 1fbf-1fc1 1fcd-1fcf 1fdd-1fdf 1fed-1fef 1ffd-1ffe 200b-200f 2018-2019",
   "2024 2027 202a-202e 2060-2064 2066-206f 2071 207f 2090-209c 20d0-20f0 2c7c-2c7d 2cef-2cf1",
   "2d6f 2d7f 2de0-2dff 2e2f 3005 302a-302d 3031-3035 303b 3099-309e 30fc-30fe a015 a4f8-a4fd",
   "a60c a66f-a672 a674-a67d a67f a69c-a69f a6f0-a6f1 a700-a721 a770 a788-a78a a7f2-a7f4",
   "a7f8-a7f9 a802 a806 a80b a825-a826 a82c a8c4-a8c5 a8e0-a8f1 a8ff a926-a92d a947-a951",
   "a980-a982 a9b3 a9b6-a9b9 a9bc-a9bd a9cf a9e5-a9e6 aa29-aa2e aa31-aa32 aa35-aa36 aa43 aa4c",
   "aa70 aa7c aab0 aab2-aab4 aab7-aab8 aabe-aabf aac1 aadd aaec-aaed aaf3-aaf4 aaf6 ab5b-ab5f",
   "ab69-ab6b abe5 abe8 abed fb1e fbb2-fbc2 fe00-fe0f fe13 fe20-fe2f fe52 fe55 feff ff07 ff0e",
   "ff1a ff3e ff40 ff70 ff9e-ff9f ffe3 fff9-fffb 101fd 102e0 10376-1037a 10780-10785 10787-107b0",
   "107b2-107ba 10a01-10a03 10a05-10a06 10a0c-10a0f 10a38-10a3a 10a3f 10ae5-10ae6 10d24-10d27",
   "10eab-10eac 10f46-10f50 10f82-10f85 11001 11038-11046 11070 11073-11074 1107f-11081",
   "110b3-110b6 110b9-110ba 110bd 110c2 110cd 11100-11102 11127-1112b 1112d-11134 11173",
   "11180-11181 111b6-111be 111c9-111cc 111cf 1122f-11231 11234 11236-11237 1123e 112df",
   "112e3-112ea 11300-11301 1133b-1133c 11340 11366-1136c 11370-11374 11438-1143f 11442-11444",
   "11446 1145e 114b3-114b8 114ba 114bf-114c0 114c2-114c3 115b2-115b5 115bc-115bd 115bf-115c0",
   "115dc-115dd 11633-1163a 1163d 1163f-11640 116ab 116ad 116b0-116b5 116b7 1171d-1171f",
   "11722-11725 11727-1172b 1182f-11837 11839-1183a 1193b-1193c 1193e 11943 119d4-119d7",
   "119da-119db 119e0 11a01-11a0a 11a33-11a38 11a3b-11a3e 11a47 11a51-11a56 11a59-11a5b",
   "11a8a-11a96 11a98-11a99 11c30-11c36 11c38-11c3d 11c3f 11c92-11ca7 11caa-11cb0 11cb2-11cb3",
   "11cb5-11cb6 11d31-11d36 11d3a 11d3c-11d3d 11d3f-11d45 11d47 11d90-11d91 11d95 11d97",
   "11ef3-11ef4 13430-13438 16af0-16af4 16b30-16b36 16b40-16b43 16f4f 16f8f-16f9f 16fe0-16fe1",
   "16fe3-16fe4 1aff0-1aff3 1aff5-1affb 1affd-1affe 1bc9d-1bc9e 1bca0-1bca3 1cf00-1cf2d",
   "1cf30-1cf46 1d167-1d169 1d173-1d182 1d185-1d18b 1d1aa-1d1ad 1d242-1d244 1da00-1da36",
   "1da3b-1da6c 1da75 1da84 1da9b-1da9f 1daa1-1daaf 1e000-1e006 1e008-1e018 1e01b-1e021",
   "1e023-1e024 1e026-1e02a 1e130-1e13d 1e2ae 1e2ec-1e2ef 1e8d0-1e8d6 1e944-1e94b 1f3fb-1f3ff",
   "e0001 e0020-e007f e0100-e01ef"]

/-- Lower-case characters that share an upper case with others, each with these. -/
def sharedUpperCase : List (Nat × List Nat) :=
  [(0x69, [0x131]), (0x73, [0x17f]), (0xb5, [0x3bc]), (0x131, [0x69]), (0x17f, [0x73]),
   (0x345, [0x3b9, 0x1fbe]), (0x390, [0x1fd3]), (0x3b0, [0x1fe3]), (0x3b2, [0x3d0]),
     (0x3b5, [0x3f5]),
   (0x3b8, [0x3d1]), (0x3b9, [0x345, 0x1fbe]), (0x3ba, [0x3f0]), (0x3bc, [0xb5]), (0x3c0, [0x3d6]),
   (0x3c1, [0x3f1]), (0x3c2, [0x3c3]), (0x3c3, [0x3c2]), (0x3c6, [0x3d5]), (0x3d0, [0x3b2]),
   (0x3d1, [0x3b8]), (0x3d5, [0x3c6]), (0x3d6, [0x3c0]), (0x3f0, [0x3ba]), (0x3f1, [0x3c1]),
   (0x3f5, [0x3b5]), (0x432, [0x1c80]), (0x434, [0x1c81]), (0x43e, [0x1c82]), (0x441, [0x1c83]),
   (0x442, [0x1c84, 0x1c85]), (0x44a, [0x1c86]), (0x463, [0x1c87]), (0x1c80, [0x432]),
   (0x1c81, [0x434]), (0x1c82, [0x43e]), (0x1c83, [0x441]), (0x1c84, [0x442, 0x1c85]),
   (0x1c85, [0x442, 0x1c84]), (0x1c86, [0x44a]), (0x1c87, [0x463]), (0x1c88, [0xa64b]),
   (0x1e61, [0x1e9b]), (0x1e9b, [0x1e61]), (0x1fbe, [0x345, 0x3b9]), (0x1fd3, [0x390]),
   (0x1fe3, [0x3b0]), (0xa64b, [0x1c88]), (0xfb05, [0xfb06]), (0xfb06, [0xfb05])]

/-- The lower case of a code point, as one code point. -/
def lowerCode (n : Nat) : Nat :=
  if n < 128 then if 65 ≤ n ∧ n ≤ 90 then n + 32 else n
  else (lowerTable.image? n).getD n

/-- The lower case of an ASCII code point; others stay. -/
def asciiLowerCode (n : Nat) : Nat :=
  if 65 ≤ n ∧ n ≤ 90 then n + 32 else n

def isCasedCode (n : Nat) : Bool :=
  if n < 128 then (65 ≤ n && n ≤ 90) || (97 ≤ n && n ≤ 122) else casedTable.contains n

def isAsciiCasedCode (n : Nat) : Bool :=
  (65 ≤ n && n ≤ 90) || (97 ≤ n && n ≤ 122)

/-- Whether some code point from `lo` to `hi` has another case. -/
def meetsCased (lo hi : Nat) : Bool :=
  (lo ≤ 90 && 65 ≤ hi && lo ≤ hi) || (lo ≤ 122 && 97 ≤ hi && lo ≤ hi) || casedTable.meets lo hi

def meetsAsciiCased (lo hi : Nat) : Bool :=
  (lo ≤ 90 && 65 ≤ hi && lo ≤ hi) || (lo ≤ 122 && 97 ≤ hi && lo ≤ hi)

/-- Pairs of a lower-case code point and a code point it is the lower case of, ascending. -/
def raisedPairs : Array (Nat × Nat) :=
  ((lowerTable.pairs.map fun (n, image) => (image, n)).mergeSort fun a b => a.1 ≤ b.1).toArray

def raisedKeys : Array Nat := raisedPairs.map Prod.fst

/-- The entries at and before index `i` whose key is `n`. -/
def raisedAt (n : Nat) : Nat → List Nat
  | 0 => match raisedPairs[0]? with
    | some (key, value) => if key = n then [value] else []
    | none => []
  | i + 1 => match raisedPairs[i + 1]? with
    | some (key, value) => if key = n then value :: raisedAt n i else []
    | none => []

/-- The code points other than `n` whose lower case is `n`. -/
def raisedCodes (n : Nat) : List Nat :=
  (if 97 ≤ n ∧ n ≤ 122 then [n - 32] else []) ++
    match lastAtMost raisedKeys n with
    | some i => raisedAt n i
    | none => []

/-- The code points that share an upper case with the lower-case code point `n`, itself excluded. -/
def upperCaseMates (n : Nat) : List Nat :=
  match sharedUpperCase.find? fun entry => entry.1 == n with
  | some entry => entry.2
  | none => []

def loweringTo (n : Nat) : List Nat :=
  (if lowerCode n = n then [n] else []) ++ raisedCodes n

/-- All code points that stand for the lower-case code point `n`, worked out from the tables. -/
def findCaseKin (n : Nat) : List Nat :=
  loweringTo n ++ (upperCaseMates n).flatMap loweringTo

/-- The answers for ASCII, kept at hand. -/
def asciiCaseKins : Array (List Nat) :=
  (Array.range 128).map findCaseKin

/-- All code points that stand for the lower-case code point `n` when case is ignored. -/
def caseKin (n : Nat) : List Nat :=
  match asciiCaseKins[n]? with
  | some kin => kin
  | none => findCaseKin n

/-- The code points that stand for `n` when only ASCII case is ignored. -/
def asciiCaseKin (n : Nat) : List Nat :=
  if 97 ≤ n ∧ n ≤ 122 then [n, n - 32] else if 65 ≤ n ∧ n ≤ 90 then [] else [n]

/-- Whether a sigma takes the character for a letter next to it. -/
def isSigmaCased (c : Char) : Bool :=
  if c.toNat < 128 then c.isAlpha else sigmaCasedTable.contains c.toNat

/-- Whether a sigma looks past the character. -/
def isCaseIgnorable (c : Char) : Bool :=
  if c.toNat < 128 then [0x27, 0x2e, 0x3a, 0x5e, 0x60].contains c.toNat
  else caseIgnorableTable.contains c.toNat

/-- A sigma ends its word when the nearest character to its left is cased and the nearest to its
right is not, ignorable characters aside. -/
def sigmaEndsWord (before after : List Char) : Bool :=
  ((before.dropWhile isCaseIgnorable).head?.map isSigmaCased).getD false &&
    !((after.dropWhile isCaseIgnorable).head?.map isSigmaCased).getD false

/-- Lower case from left to right; `before` holds the characters passed, last first. -/
def lowerFrom (before : List Char) : List Char → List Char
  | [] => []
  | c :: rest =>
    let image :=
      if c.toNat = 0x3a3 then
        [if sigmaEndsWord before rest then Char.ofNat 0x3c2 else Char.ofNat 0x3c3]
      else if c.toNat = 0x130 then ['i', Char.ofNat 0x307]
      else [Char.ofNat (lowerCode c.toNat)]
    image ++ lowerFrom (c :: before) rest

def lower (s : String) : String :=
  String.ofList (lowerFrom [] s.toList)

def foldChar (c : Char) : List Char :=
  if c.toNat < 128 then [c.toLower]
  else
    match foldTable.image? c.toNat with
    | some image => [Char.ofNat image]
    | none =>
      match longFoldings.find? fun entry => entry.1 == c.toNat with
      | some entry => entry.2.map Char.ofNat
      | none => [c]

def foldChars (cs : List Char) : List Char :=
  cs.flatMap foldChar

def foldCase (s : String) : String :=
  String.ofList (foldChars s.toList)

end MailTriage.Text
