-- The canonical combining classes of Unicode.
import Wsdl.Text.RangeTable

namespace Wsdl.Text

/-- Rows of kind = give the class. -/
def combiningClassTable : RangeTable := .ofLines
  ["0=0 300=e6 315=e8 316=dc 31a=e8 31b=d8 31c=dc 321=ca 323=dc 327=ca 329=dc 334=1 339=dc",
   "33d=e6 345=f0 346=e6 347=dc 34a=e6 34d=dc 34f=0 350=e6 353=dc 357=e6 358=e8 359=dc 35b=e6",
   "35c=e9 35d=ea 35f=e9 360=ea 362=e9 363=e6 370=0 483=e6 488=0 591=dc 592=e6 596=dc 597=e6",
   "59a=de 59b=dc 59c=e6 5a2=dc 5a8=e6 5aa=dc 5ab=e6 5ad=de 5ae=e4 5af=e6 5b0=a 5b1=b 5b2=c",
   "5b3=d 5b4=e 5b5=f 5b6=10 5b7=11 5b8=12 5b9=13 5bb=14 5bc=15 5bd=16 5be=0 5bf=17 5c0=0 5c1=18",
   "5c2=19 5c3=0 5c4=e6 5c5=dc 5c6=0 5c7=12 5c8=e6 5ca=0 610=e6 618=1e 619=1f 61a=20 61b=0",
   "64b=1b 64c=1c 64d=1d 64e=1e 64f=1f 650=20 651=21 652=22 653=e6 655=dc 657=e6 65c=dc 65d=e6",
   "65f=dc 660=0 670=23 671=0 6d6=e6 6dd=0 6df=e6 6e3=dc 6e4=e6 6e5=0 6e7=e6 6e9=0 6ea=dc 6eb=e6",
   "6ed=dc 6ee=0 711=24 712=0 730=e6 731=dc 732=e6 734=dc 735=e6 737=dc 73a=e6 73b=dc 73d=e6",
   "73e=dc 73f=e6 742=dc 743=e6 744=dc 745=e6 746=dc 747=e6 748=dc 749=e6 74b=0 7eb=e6 7f2=dc",
   "7f3=e6 7f4=0 7fd=dc 7fe=0 816=e6 81a=0 81b=e6 824=0 825=e6 828=0 829=e6 82e=0 859=dc 85c=0",
   "897=e6 899=dc 89c=e6 8a0=0 8ca=e6 8cf=dc 8d4=e6 8e2=0 8e3=dc 8e4=e6 8e6=dc 8e7=e6 8e9=dc",
   "8ea=e6 8ed=dc 8f0=1b 8f1=1c 8f2=1d 8f3=e6 8f6=dc 8f7=e6 8f9=dc 8fb=e6 900=0 93c=7 93d=0",
   "94d=9 94e=0 951=e6 952=dc 953=e6 955=0 9bc=7 9bd=0 9cd=9 9ce=0 9fe=e6 9ff=0 a3c=7 a3d=0",
   "a4d=9 a4e=0 abc=7 abd=0 acd=9 ace=0 b3c=7 b3d=0 b4d=9 b4e=0 bcd=9 bce=0 c3c=7 c3d=0 c4d=9",
   "c4e=0 c55=54 c56=5b c57=0 cbc=7 cbd=0 ccd=9 cce=0 d3b=9 d3d=0 d4d=9 d4e=0 dca=9 dcb=0 e38=67",
   "e3a=9 e3b=0 e48=6b e4c=0 eb8=76 eba=9 ebb=0 ec8=7a ecc=0 f18=dc f1a=0 f35=dc f36=0 f37=dc",
   "f38=0 f39=d8 f3a=0 f71=81 f72=82 f73=0 f74=84 f75=0 f7a=82 f7e=0 f80=82 f81=0 f82=e6 f84=9",
   "f85=0 f86=e6 f88=0 fc6=dc fc7=0 1037=7 1038=0 1039=9 103b=0 108d=dc 108e=0 135d=e6 1360=0",
   "1714=9 1716=0 1734=9 1735=0 17d2=9 17d3=0 17dd=e6 17de=0 18a9=e4 18aa=0 1939=de 193a=e6",
   "193b=dc 193c=0 1a17=e6 1a18=dc 1a19=0 1a60=9 1a61=0 1a75=e6 1a7d=0 1a7f=dc 1a80=0 1ab0=e6",
   "1ab5=dc 1abb=e6 1abd=dc 1abe=0 1abf=dc 1ac1=e6 1ac3=dc 1ac5=e6 1aca=dc 1acb=e6 1add=dc",
   "1ade=e6 1adf=0 1ae0=e6 1ae6=dc 1ae7=e6 1aeb=ea 1aec=0 1b34=7 1b35=0 1b44=9 1b45=0 1b6b=e6",
   "1b6c=dc 1b6d=e6 1b74=0 1baa=9 1bac=0 1be6=7 1be7=0 1bf2=9 1bf4=0 1c37=7 1c38=0 1cd0=e6",
   "1cd3=0 1cd4=1 1cd5=dc 1cda=e6 1cdc=dc 1ce0=e6 1ce1=0 1ce2=1 1ce9=0 1ced=dc 1cee=0 1cf4=e6",
   "1cf5=0 1cf8=e6 1cfa=0 1dc0=e6 1dc2=dc 1dc3=e6 1dca=dc 1dcb=e6 1dcd=ea 1dce=d6 1dcf=dc",
   "1dd0=ca 1dd1=e6 1df6=e8 1df7=e4 1df9=dc 1dfa=da 1dfb=e6 1dfc=e9 1dfd=dc 1dfe=e6 1dff=dc",
   "1e00=0 20d0=e6 20d2=1 20d4=e6 20d8=1 20db=e6 20dd=0 20e1=e6 20e2=0 20e5=1 20e7=e6 20e8=dc",
   "20e9=e6 20ea=1 20ec=dc 20f0=e6 20f1=0 2cef=e6 2cf2=0 2d7f=9 2d80=0 2de0=e6 2e00=0 302a=da",
   "302b=e4 302c=e8 302d=de 302e=e0 3030=0 3099=8 309b=0 a66f=e6 a670=0 a674=e6 a67e=0 a69e=e6",
   "a6a0=0 a6f0=e6 a6f2=0 a806=9 a807=0 a82c=9 a82d=0 a8c4=9 a8c5=0 a8e0=e6 a8f2=0 a92b=dc",
   "a92e=0 a953=9 a954=0 a9b3=7 a9b4=0 a9c0=9 a9c1=0 aab0=e6 aab1=0 aab2=e6 aab4=dc aab5=0",
   "aab7=e6 aab9=0 aabe=e6 aac0=0 aac1=e6 aac2=0 aaf6=9 aaf7=0 abed=9 abee=0 fb1e=1a fb1f=0",
   "fe20=e6 fe27=dc fe2e=e6 fe30=0 101fd=dc 101fe=0 102e0=dc 102e1=0 10376=e6 1037b=0 10a0d=dc",
   "10a0e=0 10a0f=e6 10a10=0 10a38=e6 10a39=1 10a3a=dc 10a3b=0 10a3f=9 10a40=0 10ae5=e6 10ae6=dc",
   "10ae7=0 10d24=e6 10d28=0 10d69=e6 10d6e=0 10eab=e6 10ead=0 10ecb=e6 10ed0=0 10ef0=e6",
   "10efa=dc 10efc=0 10efd=dc 10f00=0 10f46=dc 10f48=e6 10f4b=dc 10f4c=e6 10f4d=dc 10f51=0",
   "10f82=e6 10f83=dc 10f84=e6 10f85=dc 10f86=0 11046=9 11047=0 11070=9 11071=0 1107f=9 11080=0",
   "110b9=9 110ba=7 110bb=0 11100=e6 11103=0 11133=9 11135=0 11173=7 11174=0 111c0=9 111c1=0",
   "111ca=7 111cb=0 11235=9 11236=7 11237=0 112e9=7 112ea=9 112eb=0 1133b=7 1133d=0 1134d=9",
   "1134e=0 11366=e6 1136d=0 11370=e6 11375=0 113ce=9 113d1=0 11442=9 11443=0 11446=7 11447=0",
   "1145e=e6 1145f=0 114c2=9 114c3=7 114c4=0 115bf=9 115c0=7 115c1=0 1163f=9 11640=0 116b6=9",
   "116b7=7 116b8=0 1172b=9 1172c=0 11839=9 1183a=7 1183b=0 1193d=9 1193f=0 11943=7 11944=0",
   "119e0=9 119e1=0 11a34=9 11a35=0 11a47=9 11a48=0 11a99=9 11a9a=0 11c3f=9 11c40=0 11d42=7",
   "11d43=0 11d44=9 11d46=0 11d97=9 11d98=0 11f41=9 11f43=0 1612f=9 16130=0 16af0=1 16af5=0",
   "16b30=e6 16b37=0 16ff0=6 16ff2=0 1bc9e=1 1bc9f=0 1d165=d8 1d167=1 1d16a=0 1d16d=e2 1d16e=d8",
   "1d173=0 1d17b=dc 1d183=0 1d185=e6 1d18a=dc 1d18c=0 1d1aa=e6 1d1ae=0 1d242=e6 1d245=0",
   "1d250=e6 1d25c=0 1d25e=e6 1d281=0 1e000=e6 1e007=0 1e008=e6 1e019=0 1e01b=e6 1e022=0",
   "1e023=e6 1e025=0 1e026=e6 1e02b=0 1e08f=e6 1e090=0 1e130=e6 1e137=0 1e2ae=e6 1e2af=0",
   "1e2ec=e6 1e2f0=0 1e4ec=e8 1e4ee=dc 1e4ef=e6 1e4f0=0 1e5ee=e6 1e5ef=dc 1e5f0=0 1e6e3=e6",
   "1e6e4=0 1e6e6=e6 1e6e7=0 1e6ee=e6 1e6f0=0 1e6f5=e6 1e6f6=0 1e8d0=dc 1e8d7=0 1e944=e6 1e94a=7",
   "1e94b=0"]

/-- The combining class of a character; 0 for one that starts anew. -/
def combiningClass (code : Nat) : Nat :=
  match combiningClassTable.row? code with
  | some row => row.numbers.headD 0
  | none => 0

end Wsdl.Text
