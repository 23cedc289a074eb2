-- The directions in which characters are written, as the bidirectional
-- algorithm of Unicode classes them.
import Wsdl.Text.RangeTable

namespace Wsdl.Text

/-- The kind of a row is the class. -/
def bidiTable : RangeTable := .ofLines
  ["0B 9X eB 1cX 21O 23T 26O 2bP 2cC 2dP 2eC 30E 3aC 3bO 41L 5bO 61L 7bO 7fB 85X 86B a0C a1O a2T",
   "a6O aaL abO adB aeO b0T b2E b4O b5L b6O b9E baL bbO c0L d7O d8L f7O f8L 2b9O 2bbL 2c2O 2d0L",
   "2d2O 2e0L 2e5O 2eeL 2efO 300M 370L 374O 376L 37eO 37fL 384O 386L 387O 388L 3f6O 3f7L 483M",
   "48aL 58aO 58bL 58dO 58fT 590R 591M 5beR 5bfM 5c0R 5c1M 5c3R 5c4M 5c6R 5c7M 5caR 600N 606O",
   "608A 609T 60bA 60cC 60dA 60eO 610M 61bA 64bM 660N 66aT 66bN 66dA 670M 671A 6d6M 6ddN 6deO",
   "6dfM 6e5A 6e7M 6e9O 6eaM 6eeA 6f0E 6faA 711M 712A 730M 74bA 7a6M 7b1A 7c0R 7ebM 7f4R 7f6O",
   "7faR 7fdM 7feR 816M 81aR 81bM 824R 825M 828R 829M 82eR 859M 85cR 860A 890N 892A 897M 8a0A",
   "8caM 8e2N 8e3M 903L 93aM 93bL 93cM 93dL 941M 949L 94dM 94eL 951M 958L 962M 964L 981M 982L",
   "9bcM 9bdL 9c1M 9c5L 9cdM 9ceL 9e2M 9e4L 9f2T 9f4L 9fbT 9fcL 9feM 9ffL a01M a03L a3cM a3dL",
   "a41M a43L a47M a49L a4bM a4eL a51M a52L a70M a72L a75M a76L a81M a83L abcM abdL ac1M ac6L",
   "ac7M ac9L acdM aceL ae2M ae4L af1T af2L afaM b00L b01M b02L b3cM b3dL b3fM b40L b41M b45L",
   "b4dM b4eL b53M b57L b62M b64L b82M b83L bc0M bc1L bcdM bceL bf3O bf9T bfaO bfbL c00M c01L",
   "c04M c05L c3cM c3dL c3eM c41L c46M c49L c4aM c4eL c55M c57L c62M c64L c78O c7fL c81M c82L",
   "cbcM cbdL cccM cceL ce2M ce4L d00M d02L d3bM d3dL d41M d45L d4dM d4eL d62M d64L d81M d82L",
   "dcaM dcbL dd2M dd5L dd6M dd7L e31M e32L e34M e3bL e3fT e40L e47M e4fL eb1M eb2L eb4M ebdL",
   "ec8M ecfL f18M f1aL f35M f36L f37M f38L f39M f3aO f3eL f71M f7fL f80M f85L f86M f88L f8dM",
   "f98L f99M fbdL fc6M fc7L 102dM 1031L 1032M 1038L 1039M 103bL 103dM 103fL 1058M 105aL 105eM",
   "1061L 1071M 1075L 1082M 1083L 1085M 1087L 108dM 108eL 109dM 109eL 135dM 1360L 1390O 139aL",
   "1400O 1401L 1680X 1681L 169bO 169dL 1712M 1715L 1732M 1734L 1752M 1754L 1772M 1774L 17b4M",
   "17b6L 17b7M 17beL 17c6M 17c7L 17c9M 17d4L 17dbT 17dcL 17ddM 17deL 17f0O 17faL 1800O 180bM",
   "180eB 180fM 1810L 1885M 1887L 18a9M 18aaL 1920M 1923L 1927M 1929L 1932M 1933L 1939M 193cL",
   "1940O 1941L 1944O 1946L 19deO 1a00L 1a17M 1a19L 1a1bM 1a1cL 1a56M 1a57L 1a58M 1a5fL 1a60M",
   "1a61L 1a62M 1a63L 1a65M 1a6dL 1a73M 1a7dL 1a7fM 1a80L 1ab0M 1adfL 1ae0M 1aecL 1b00M 1b04L",
   "1b34M 1b35L 1b36M 1b3aL 1b6bM 1b74L 1b80M 1b82L 1ba2M 1ba6L 1ba8M 1baaL 1babM 1baeL 1be6M",
   "1be7L 1be8M 1beaL 1bedM 1beeL 1befM 1bf2L 1c2cM 1c34L 1c36M 1c38L 1cd0M 1cd3L 1cd4M 1ce1L",
   "1ce2M 1ce9L 1cedM 1ceeL 1cf4M 1cf5L 1cf8M 1cfaL 1dc0M 1e00L 1fbdO 1fbeL 1fbfO 1fc2L 1fcdO",
   "1fd0L 1fddO 1fe0L 1fedO 1ff0L 1ffdO 1fffL 2000X 200bB 200eL 200fR 2010O 2028X 202fC 2030T",
   "2035O 2044C 2045O 205fX 2060B 2066X 206aB 2070E 2071L 2074E 207aP 207cO 207fL 2080E 208aP",
   "208cO 2090L 20a0T 20d0M 20f1L 2100O 2102L 2103O 2107L 2108O 210aL 2114O 2115L 2116O 2119L",
   "211eO 2124L 2125O 2126L 2127O 2128L 2129O 212aL 212eT 212fL 213aO 213cL 2140O 2145L 214aO",
   "214eL 2150O 2160L 2189O 218cL 2190O 2212P 2213T 2214O 2336L 237bO 2395L 2396O 242aL 2440O",
   "244bL 2460O 2488E 249cL 24eaO 26acL 26adO 2800L 2900O 2b74L 2b76O 2c00L 2ce5O 2cebL 2cefM",
   "2cf2L 2cf9O 2d00L 2d7fM 2d80L 2de0M 2e00O 2e5eL 2e60O 2e62L 2e80O 2e9aL 2e9bO 2ef4L 2f00O",
   "2fd6L 2ff0O 3000X 3001O 3005L 3008O 3021L 302aM 302eL 3030O 3031L 3036O 3038L 303dO 3040L",
   "3099M 309bO 309dL 30a0O 30a1L 30fbO 30fcL 31c0O 31e6L 31efO 31f0L 321dO 321fL 3250O 3260L",
   "327cO 327fL 32b1O 32c0L 32ccO 32d0L 3377O 337bL 33deO 33e0L 33ffO 3400L 4dc0O 4e00L a490O",
   "a4c7L a60dO a610L a66fM a673O a674M a67eO a680L a69eM a6a0L a6f0M a6f2L a700O a722L a788O",
   "a789L a802M a803L a806M a807L a80bM a80cL a825M a827L a828O a82cM a82dL a838T a83aL a874O",
   "a878L a8c4M a8c6L a8e0M a8f2L a8ffM a900L a926M a92eL a947M a952L a980M a983L a9b3M a9b4L",
   "a9b6M a9baL a9bcM a9beL a9e5M a9e6L aa29M aa2fL aa31M aa33L aa35M aa37L aa43M aa44L aa4cM",
   "aa4dL aa7cM aa7dL aab0M aab1L aab2M aab5L aab7M aab9L aabeM aac0L aac1M aac2L aaecM aaeeL",
   "aaf6M aaf7L ab6aO ab6cL abe5M abe6L abe8M abe9L abedM abeeL fb1dR fb1eM fb1fR fb29P fb2aR",
   "fb50A fbc3O fbd3A fd3eO fd50A fd90O fd92A fdc8O fdd0B fdf0A fdfdO fe00M fe10O fe1aL fe20M",
   "fe30O fe50C fe51O fe52C fe53L fe54O fe55C fe56O fe5fT fe60O fe62P fe64O fe67L fe68O fe69T",
   "fe6bO fe6cL fe70A feffB ff00L ff01O ff03T ff06O ff0bP ff0cC ff0dP ff0eC ff10E ff1aC ff1bO",
   "ff21L ff3bO ff41L ff5bO ff66L ffe0T ffe2O ffe5T ffe7L ffe8O ffefL fff0B fff9O fffeB 10000L",
   "10101O 10102L 10140O 1018dL 10190O 1019dL 101a0O 101a1L 101fdM 101feL 102e0M 102e1E 102fcL",
   "10376M 1037bL 10800R 1091fO 10920R 10a01M 10a04R 10a05M 10a07R 10a0cM 10a10R 10a38M 10a3bR",
   "10a3fM 10a40R 10ae5M 10ae7R 10b39O 10b40R 10d00A 10d24M 10d28A 10d30N 10d3aA 10d40N 10d4aR",
   "10d69M 10d6eO 10d6fR 10e60N 10e7fR 10eabM 10eadR 10ec0A 10ecbM 10ed0O 10ed9A 10ef0M 10f00R",
   "10f30A 10f46M 10f51A 10f70R 10f82M 10f86R 11000L 11001M 11002L 11038M 11047L 11052O 11066L",
   "11070M 11071L 11073M 11075L 1107fM 11082L 110b3M 110b7L 110b9M 110bbL 110c2M 110c3L 11100M",
   "11103L 11127M 1112cL 1112dM 11135L 11173M 11174L 11180M 11182L 111b6M 111bfL 111c9M 111cdL",
   "111cfM 111d0L 1122fM 11232L 11234M 11235L 11236M 11238L 1123eM 1123fL 11241M 11242L 112dfM",
   "112e0L 112e3M 112ebL 11300M 11302L 1133bM 1133dL 11340M 11341L 11366M 1136dL 11370M 11375L",
   "113bbM 113c1L 113ceM 113cfL 113d0M 113d1L 113d2M 113d3L 113e1M 113e3L 11438M 11440L 11442M",
   "11445L 11446M 11447L 1145eM 1145fL 114b3M 114b9L 114baM 114bbL 114bfM 114c1L 114c2M 114c4L",
   "115b2M 115b6L 115bcM 115beL 115bfM 115c1L 115dcM 115deL 11633M 1163bL 1163dM 1163eL 1163fM",
   "11641L 11660O 1166dL 116abM 116acL 116adM 116aeL 116b0M 116b6L 116b7M 116b8L 1171dM 1171eL",
   "1171fM 11720L 11722M 11726L 11727M 1172cL 1182fM 11838L 11839M 1183bL 1193bM 1193dL 1193eM",
   "1193fL 11943M 11944L 119d4M 119d8L 119daM 119dcL 119e0M 119e1L 11a01M 11a07L 11a09M 11a0bL",
   "11a33M 11a39L 11a3bM 11a3fL 11a47M 11a48L 11a51M 11a57L 11a59M 11a5cL 11a8aM 11a97L 11a98M",
   "11a9aL 11b60M 11b61L 11b62M 11b65L 11b66M 11b67L 11c30M 11c37L 11c38M 11c3eL 11c92M 11ca8L",
   "11caaM 11cb1L 11cb2M 11cb4L 11cb5M 11cb7L 11d31M 11d37L 11d3aM 11d3bL 11d3cM 11d3eL 11d3fM",
   "11d46L 11d47M 11d48L 11d90M 11d92L 11d95M 11d96L 11d97M 11d98L 11ef3M 11ef5L 11f00M 11f02L",
   "11f36M 11f3bL 11f40M 11f41L 11f42M 11f43L 11f5aM 11f5bL 11fd5O 11fddT 11fe1O 11ff2L 13440M",
   "13441L 13447M 13456L 1611eM 1612aL 1612dM 16130L 16af0M 16af5L 16b30M 16b37L 16f4fM 16f50L",
   "16f8fM 16f93L 16fe2O 16fe3L 16fe4M 16fe5L 1bc9dM 1bc9fL 1bca0B 1bca4L 1cc00O 1ccf0E 1ccfaO",
   "1ccfdL 1cd00O 1ceb4L 1cebaO 1ced1L 1ced2O 1cef1L 1cf00M 1cf2eL 1cf30M 1cf47L 1d167M 1d16aL",
   "1d173B 1d17bM 1d183L 1d185M 1d18cL 1d1aaM 1d1aeL 1d1e9O 1d1ebL 1d200O 1d242M 1d245O 1d246L",
   "1d250M 1d25cL 1d25eM 1d281O 1d290L 1d300O 1d357L 1d6dbO 1d6dcL 1d715O 1d716L 1d74fO 1d750L",
   "1d789O 1d78aL 1d7c3O 1d7c4L 1d7ceE 1d800L 1da00M 1da37L 1da3bM 1da6dL 1da75M 1da76L 1da84M",
   "1da85L 1da9bM 1daa0L 1daa1M 1dab0L 1db00O 1db1dL 1e000M 1e007L 1e008M 1e019L 1e01bM 1e022L",
   "1e023M 1e025L 1e026M 1e02bL 1e08fM 1e090L 1e130M 1e137L 1e2aeM 1e2afL 1e2ecM 1e2f0L 1e2ffT",
   "1e300L 1e4ecM 1e4f0L 1e5eeM 1e5f0L 1e6e3M 1e6e4L 1e6e6M 1e6e7L 1e6eeM 1e6f0L 1e6f5M 1e6f6L",
   "1e800R 1e8d0M 1e8d7R 1e944M 1e94bR 1ec70A 1ecc0R 1ed00A 1ed50R 1ee00A 1eef0O 1eef2A 1ef00R",
   "1f000O 1f02cL 1f030O 1f094L 1f0a0O 1f0afL 1f0b1O 1f0c0L 1f0c1O 1f0d0L 1f0d1O 1f0f6L 1f100E",
   "1f10bO 1f110L 1f12fO 1f130L 1f16aO 1f170L 1f1adO 1f1aeL 1f260O 1f266L 1f300O 1f6daL 1f6dcO",
   "1f6edL 1f6f0O 1f6fdL 1f700O 1f7daL 1f7e0O 1f7ecL 1f7f0O 1f7f1L 1f7f5O 1f80cL 1f810O 1f848L",
   "1f850O 1f85aL 1f860O 1f888L 1f890O 1f8aeL 1f8b0O 1f8bcL 1f8c0O 1f8c2L 1f8d0O 1f8d9L 1f900O",
   "1fa58L 1fa60O 1fa6eL 1fa70O 1fa7dL 1fa80O 1fac7L 1fac8O 1fac9L 1faccO 1fadeL 1fadfO 1faecL",
   "1faefO 1fafbL 1fb00O 1fb93L 1fb94O 1fbf0E 1fbfaO 1fbfbL 1fffeB 20000L 2fffeB 30000L 3fffeB",
   "40000L 4fffeB 50000L 5fffeB 60000L 6fffeB 70000L 7fffeB 80000L 8fffeB 90000L 9fffeB a0000L",
   "afffeB b0000L bfffeB c0000L cfffeB d0000L dfffeB e0100M e01f0B e1000L efffeB f0000L ffffeB",
   "100000L 10fffeB"]

/-- The classes that matter for domain names. -/
inductive BidiClass where
  | left
  | right
  | arabicLetter
  | arabicNumber
  | europeanNumber
  | europeanSeparator
  | europeanTerminator
  | commonSeparator
  | boundaryNeutral
  | otherNeutral
  | mark
  /-- Any other class. -/
  | other
  deriving DecidableEq, Repr

/-- The class that a letter of the table stands for. -/
def BidiClass.ofLetter : Char → BidiClass
  | 'L' => left
  | 'R' => right
  | 'A' => arabicLetter
  | 'N' => arabicNumber
  | 'E' => europeanNumber
  | 'P' => europeanSeparator
  | 'T' => europeanTerminator
  | 'C' => commonSeparator
  | 'B' => boundaryNeutral
  | 'O' => otherNeutral
  | 'M' => mark
  | _ => other

/-- The class of a character. -/
def bidiClass (c : Char) : BidiClass :=
  match bidiTable.row? c.toNat with
  | some row => .ofLetter row.kind
  | none => .left

end Wsdl.Text
