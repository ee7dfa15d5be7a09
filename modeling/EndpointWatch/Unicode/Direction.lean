import EndpointWatch.Unicode.Span

/-!
# Writing direction

The bidirectional classes of the characters that domain names may hold. A character without an entry is
written from left to right.
-/

namespace EndpointWatch.Unicode

inductive Direction where
  | left
  | right
  | arabicLetter
  | arabicNumber
  | europeanNumber
  | numberSeparator
  | commonSeparator
  | numberTerminator
  | neutral
  | boundary
  | mark
  deriving DecidableEq, Repr, Inhabited

/-- Ranges with the number of their class. -/
def directionTable : Spans := Spans.read
  ["0-8=8 e-1b=8 21-22=7 23-25=6 26-2a=7 2b=4 2c=5 2d=4 2e-2f=5 30-39=3 3a=5 3b-60=7 7b-7e=7 7f=8 a1=7",
   "a2-a5=6 a6-ae=7 b0-b1=6 b6-d7=7 f7=7 2b9-2ba=7 2c2-2cf=7 2d2-2ed=7 2ef-2ff=7 300-36f=9 375=7 3f6=7",
   "483-489=9 58a-58e=7 58f=6 591-5bd=9 5be=0 5bf=9 5c0=0 5c1-5c2=9 5c3=0 5c4-5c5=9 5c6=0 5c7=9 5d0-5f4=0",
   "606-607=7 608=1 609-60a=6 60b=1 60c=5 60d=1 60e-60f=7 610-61a=9 61b-64a=1 64b-65f=9 660-669=2 66a=6",
   "66b-66c=2 66d-66f=1 670=9 671-6d5=1 6d6-6dc=9 6de=7 6df-6e4=9 6e5-6e6=1 6e7-6e8=9 6e9=7 6ea-6ed=9",
   "6ee-6ef=1 6f0-6f9=3 6fa-710=1 711=9 712-72f=1 730-74a=9 74d-7a5=1 7a6-7b0=9 7b1=1 7c0-7ea=0 7eb-7f3=9",
   "7f4-7f5=0 7f6-7f9=7 7fa=0 7fd=9 7fe-815=0 816-819=9 81a=0 81b-823=9 824=0 825-827=9 828=0 829-82d=9",
   "830-858=0 859-85b=9 85e=0 860-897=1 898-89f=9 8a0-8c9=1 8ca-902=9 93a=9 93c=9 941-948=9 94d=9 951-957=9",
   "962-963=9 981=9 9bc=9 9c1-9c4=9 9cd=9 9e2-9e3=9 9f2-9f3=6 9fb=6 9fe-a02=9 a3c=9 a41-a51=9 a70-a71=9",
   "a75=9 a81-a82=9 abc=9 ac1-ac8=9 acd=9 ae2-ae3=9 af1=6 afa-b01=9 b3c=9 b3f=9 b41-b44=9 b4d-b56=9",
   "b62-b63=9 b82=9 bc0=9 bcd=9 bf3-bf8=7 bf9=6 bfa=7 c00=9 c04=9 c3c=9 c3e-c40=9 c46-c56=9 c62-c63=9",
   "c78-c7e=7 c81=9 cbc=9 ccc-ccd=9 ce2-ce3=9 d00-d01=9 d3b-d3c=9 d41-d44=9 d4d=9 d62-d63=9 d81=9 dca=9",
   "dd2-dd6=9 e31=9 e34-e3a=9 e3f=6 e47-e4e=9 eb1=9 eb4-ebc=9 ec8-ece=9 f18-f19=9 f35=9 f37=9 f39=9",
   "f3a-f3d=7 f71-f7e=9 f80-f84=9 f86-f87=9 f8d-fbc=9 fc6=9 102d-1030=9 1032-1037=9 1039-103a=9 103d-103e=9",
   "1058-1059=9 105e-1060=9 1071-1074=9 1082=9 1085-1086=9 108d=9 109d=9 135d-135f=9 1390-1399=7 1400=7",
   "169b-169c=7 1712-1714=9 1732-1733=9 1752-1753=9 1772-1773=9 17b7-17bd=9 17c6=9 17c9-17d3=9 17db=6 17dd=9",
   "17f0-180a=7 1885-1886=9 18a9=9 1920-1922=9 1927-1928=9 1932=9 1939-193b=9 1940-1945=7 19de-19ff=7",
   "1a17-1a18=9 1a1b=9 1a56=9 1a58-1a60=9 1a62=9 1a65-1a6c=9 1a73-1a7f=9 1ab0-1ace=9 1b00-1b03=9 1b34=9",
   "1b36-1b3a=9 1b3c=9 1b42=9 1b6b-1b73=9 1b80-1b81=9 1ba2-1ba5=9 1ba8-1ba9=9 1bab-1bad=9 1be6=9 1be8-1be9=9",
   "1bed=9 1bef-1bf1=9 1c2c-1c33=9 1c36-1c37=9 1cd0-1cd2=9 1cd4-1ce0=9 1ce2-1ce8=9 1ced=9 1cf4=9 1cf8-1cf9=9",
   "1dc0-1dff=9 200c-200d=8 2010-2027=7 2030-2032=6 2035-2043=7 2044=5 2045-205e=7 20a0-20c1=6 20d0-20f0=9",
   "2104-2129=7 212e=6 213a-214d=7 218a-2211=7 2212=4 2213=6 2214-2335=7 237b-2394=7 2396-2426=7 2440-26ab=7",
   "26ad-27ff=7 2900-2b95=7 2b97-2bff=7 2ce5-2cea=7 2cef-2cf1=9 2cf9-2cff=7 2d7f=9 2de0-2dff=9 2e00-3004=7",
   "3008-3020=7 302a-302d=9 3030=7 3037=7 303d-303f=7 3099-309a=9 30a0=7 30fb=7 31c0-31e3=7 4dc0-4dff=7",
   "a490-a4c6=7 a60d-a60f=7 a66f-a672=9 a673=7 a674-a67d=9 a67e-a67f=7 a69e-a69f=9 a6f0-a6f1=9 a700-a721=7",
   "a788=7 a802=9 a806=9 a80b=9 a825-a826=9 a828-a82b=7 a82c=9 a838-a839=6 a874-a877=7 a8c4-a8c5=9",
   "a8e0-a8f1=9 a8ff=9 a926-a92d=9 a947-a951=9 a980-a982=9 a9b3=9 a9b6-a9b9=9 a9bc-a9bd=9 a9e5=9 aa29-aa2e=9",
   "aa31-aa32=9 aa35-aa36=9 aa43=9 aa4c=9 aa7c=9 aab0=9 aab2-aab4=9 aab7-aab8=9 aabe-aabf=9 aac1=9",
   "aaec-aaed=9 aaf6=9 ab6a-ab6b=7 abe5=9 abe8=9 abed=9 fb1e=9 fbb2-fbd2=1 fd3e-fd4f=7 fd90-fdce=1",
   "fdcf-fdff=7 fe20-fe2f=9 fe45-fe46=7 fe73=1 10101=7 10140-1018c=7 10190-101a0=7 101fd=9 102e0=9",
   "102e1-102fb=3 10376-1037a=9 10800-1091b=0 1091f=7 10920-10a00=0 10a01-10a0f=9 10a10-10a35=0",
   "10a38-10a3f=9 10a40-10ae4=0 10ae5-10ae6=9 10aeb-10b35=0 10b39-10b3f=7 10b40-10cff=0 10d00-10d23=1",
   "10d24-10d27=9 10d30-10d39=2 10d40-10d8f=0 10e60-10e7e=2 10e80-10ea9=0 10eab-10eac=9 10ead-10eb1=0",
   "10ec2-10efc=1 10efd-10eff=9 10f00-10f27=0 10f30-10f45=1 10f46-10f50=9 10f51-10f59=1 10f70-10f81=0",
   "10f82-10f85=9 10f86-10ff6=0 11001=9 11038-11046=9 11052-11065=7 11070=9 11073-11074=9 1107f-11081=9",
   "110b3-110b6=9 110b9-110ba=9 110c2=9 11100-11102=9 11127-1112b=9 1112d-11134=9 11173=9 11180-11181=9",
   "111b6-111be=9 111c9-111cc=9 111cf=9 1122f-11231=9 11234=9 11236-11237=9 1123e=9 11241=9 112df=9",
   "112e3-112ea=9 11300-11301=9 1133b-1133c=9 11340=9 11366-11374=9 11438-1143f=9 11442-11444=9 11446=9",
   "1145e=9 114b3-114b8=9 114ba=9 114bf-114c0=9 114c2-114c3=9 115b2-115b5=9 115bc-115bd=9 115bf-115c0=9",
   "115dc-115dd=9 11633-1163a=9 1163d=9 1163f-11640=9 11660-1166c=7 116ab=9 116ad=9 116b0-116b5=9 116b7=9",
   "1171d-1171f=9 11722-11725=9 11727-1172b=9 1182f-11837=9 11839-1183a=9 1193b-1193c=9 1193e=9 11943=9",
   "119d4-119db=9 119e0=9 11a01-11a06=9 11a09-11a0a=9 11a33-11a38=9 11a3b-11a3e=9 11a47=9 11a51-11a56=9",
   "11a59-11a5b=9 11a8a-11a96=9 11a98-11a99=9 11c30-11c3d=9 11c92-11ca7=9 11caa-11cb0=9 11cb2-11cb3=9",
   "11cb5-11cb6=9 11d31-11d45=9 11d47=9 11d90-11d91=9 11d95=9 11d97=9 11ef3-11ef4=9 11f00-11f01=9",
   "11f36-11f3a=9 11f40=9 11f42=9 11fd5-11fdc=7 11fdd-11fe0=6 11fe1-11ff1=7 13440=9 13447-13455=9",
   "16af0-16af4=9 16b30-16b36=9 16f4f=9 16f8f-16f92=9 16fe2=7 16fe4=9 1bc9d-1bc9e=9 1cf00-1cf46=9",
   "1d167-1d169=9 1d17b-1d182=9 1d185-1d18b=9 1d1aa-1d1ad=9 1d1e9-1d241=7 1d242-1d244=9 1d245=7",
   "1d300-1d356=7 1da00-1da36=9 1da3b-1da6c=9 1da75=9 1da84=9 1da9b-1daaf=9 1e000-1e08f=9 1e130-1e136=9",
   "1e2ae=9 1e2ec-1e2ef=9 1e2ff=6 1e4ec-1e4ef=9 1e800-1e8cf=0 1e8d0-1e8d6=9 1e922-1e943=0 1e944-1e94a=9",
   "1e94b-1e95f=0 1ec71-1ed3d=1 1eef0-1f12f=7 1f16d-1f16f=7 1f1ad=7 1f260-1f6d7=7 1f6dc-1f776=7",
   "1f77b-1f8b1=7 1f900-1fa53=7 1fa60-1fa88=7 1fa90-1fabd=7 1fabf-1fac5=7 1face-1fadb=7 1fae0-1fae8=7",
   "1faf0-1fbca=7"]

/-- The classes in the order of their numbers. -/
def directions : List Direction :=
  [.right, .arabicLetter, .arabicNumber, .europeanNumber, .numberSeparator, .commonSeparator,
   .numberTerminator, .neutral, .boundary, .mark]

def direction (c : Char) : Direction :=
  match directionTable.find? c.toNat with
  | some s => (directions[s.numbers.headD 0]?).getD .left
  | none => .left

end EndpointWatch.Unicode
