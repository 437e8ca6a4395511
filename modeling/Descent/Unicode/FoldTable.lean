/-!
# The table of letter cases

The characters that differ only in case stand together in one word: the first code point in
hexadecimal, then the distance from each to the next. A character that stands in no word has no
other case.
-/

namespace Descent.Unicode

/-- The groups of characters that differ only in case. -/
def foldTable : String :=
  "41+20 42+20 43+20 44+20 45+20 46+20 47+20 48+20 49+20 4a+20 4b+20+20bf 4c+20 4d+20 4e+20
   4f+20 50+20 51+20 52+20 53+20+10c 54+20 55+20 56+20 57+20 58+20 59+20 5a+20 b5+2e7+20
   c0+20 c1+20 c2+20 c3+20 c4+20 c5+20+2046 c6+20 c7+20 c8+20 c9+20 ca+20 cb+20 cc+20 cd+20
   ce+20 cf+20 d0+20 d1+20 d2+20 d3+20 d4+20 d5+20 d6+20 d8+20 d9+20 da+20 db+20 dc+20 dd+20
   de+20 df+1dbf ff+79 100+1 102+1 104+1 106+1 108+1 10a+1 10c+1 10e+1 110+1 112+1 114+1
   116+1 118+1 11a+1 11c+1 11e+1 120+1 122+1 124+1 126+1 128+1 12a+1 12c+1 12e+1 132+1 134+1
   136+1 139+1 13b+1 13d+1 13f+1 141+1 143+1 145+1 147+1 14a+1 14c+1 14e+1 150+1 152+1 154+1
   156+1 158+1 15a+1 15c+1 15e+1 160+1 162+1 164+1 166+1 168+1 16a+1 16c+1 16e+1 170+1 172+1
   174+1 176+1 179+1 17b+1 17d+1 180+c3 181+d2 182+1 184+1 186+ce 187+1 189+cd 18a+cd 18b+1
   18e+4f 18f+ca 190+cb 191+1 193+cd 194+cf 195+61 196+d3 197+d1 198+1 19a+a3 19b+a641 19c+d3
   19d+d5 19e+82 19f+d6 1a0+1 1a2+1 1a4+1 1a6+da 1a7+1 1a9+da 1ac+1 1ae+da 1af+1 1b1+d9
   1b2+d9 1b3+1 1b5+1 1b7+db 1b8+1 1bc+1 1bf+38 1c4+1+1 1c7+1+1 1ca+1+1 1cd+1 1cf+1 1d1+1
   1d3+1 1d5+1 1d7+1 1d9+1 1db+1 1de+1 1e0+1 1e2+1 1e4+1 1e6+1 1e8+1 1ea+1 1ec+1 1ee+1
   1f1+1+1 1f4+1 1f8+1 1fa+1 1fc+1 1fe+1 200+1 202+1 204+1 206+1 208+1 20a+1 20c+1 20e+1
   210+1 212+1 214+1 216+1 218+1 21a+1 21c+1 21e+1 222+1 224+1 226+1 228+1 22a+1 22c+1 22e+1
   230+1 232+1 23a+2a2b 23b+1 23e+2a28 23f+2a3f 240+2a3f 241+1 244+45 245+47 246+1 248+1
   24a+1 24c+1 24e+1 250+2a1f 251+2a1c 252+2a1e 25c+a54f 261+a54b 264+a567 265+a528 266+a544
   26a+a544 26b+29f7 26c+a541 271+29fd 27d+29e7 282+a543 287+a52a 29d+a515 29e+a512
   345+54+20+1c05 370+1 372+1 376+1 37b+82 37c+82 37d+82 37f+74 386+26 388+25 389+25 38a+25
   38c+40 38e+3f 38f+3f 390+1c43 391+20 392+20+1e 393+20 394+20 395+20+40 396+20 397+20
   398+20+19+23 39a+20+36 39b+20 39d+20 39e+20 39f+20 3a0+20+16 3a1+20+30 3a3+1f+1 3a4+20
   3a5+20 3a6+20+f 3a7+20 3a8+20 3a9+20+1d5d 3aa+20 3ab+20 3b0+1c33 3cf+8 3d8+1 3da+1 3dc+1
   3de+1 3e0+1 3e2+1 3e4+1 3e6+1 3e8+1 3ea+1 3ec+1 3ee+1 3f2+7 3f7+1 3fa+1 400+50 401+50
   402+50 403+50 404+50 405+50 406+50 407+50 408+50 409+50 40a+50 40b+50 40c+50 40d+50 40e+50
   40f+50 410+20 411+20 412+20+184e 413+20 414+20+184d 415+20 416+20 417+20 418+20 419+20
   41a+20 41b+20 41c+20 41d+20 41e+20+1844 41f+20 420+20 421+20+1842 422+20+1842+1 423+20
   424+20 425+20 426+20 427+20 428+20 429+20 42a+20+183c 42b+20 42c+20 42d+20 42e+20 42f+20
   460+1 462+1+1824 464+1 466+1 468+1 46a+1 46c+1 46e+1 470+1 472+1 474+1 476+1 478+1 47a+1
   47c+1 47e+1 480+1 48a+1 48c+1 48e+1 490+1 492+1 494+1 496+1 498+1 49a+1 49c+1 49e+1 4a0+1
   4a2+1 4a4+1 4a6+1 4a8+1 4aa+1 4ac+1 4ae+1 4b0+1 4b2+1 4b4+1 4b6+1 4b8+1 4ba+1 4bc+1 4be+1
   4c0+f 4c1+1 4c3+1 4c5+1 4c7+1 4c9+1 4cb+1 4cd+1 4d0+1 4d2+1 4d4+1 4d6+1 4d8+1 4da+1 4dc+1
   4de+1 4e0+1 4e2+1 4e4+1 4e6+1 4e8+1 4ea+1 4ec+1 4ee+1 4f0+1 4f2+1 4f4+1 4f6+1 4f8+1 4fa+1
   4fc+1 4fe+1 500+1 502+1 504+1 506+1 508+1 50a+1 50c+1 50e+1 510+1 512+1 514+1 516+1 518+1
   51a+1 51c+1 51e+1 520+1 522+1 524+1 526+1 528+1 52a+1 52c+1 52e+1 531+30 532+30 533+30
   534+30 535+30 536+30 537+30 538+30 539+30 53a+30 53b+30 53c+30 53d+30 53e+30 53f+30 540+30
   541+30 542+30 543+30 544+30 545+30 546+30 547+30 548+30 549+30 54a+30 54b+30 54c+30 54d+30
   54e+30 54f+30 550+30 551+30 552+30 553+30 554+30 555+30 556+30 10a0+1c60 10a1+1c60
   10a2+1c60 10a3+1c60 10a4+1c60 10a5+1c60 10a6+1c60 10a7+1c60 10a8+1c60 10a9+1c60 10aa+1c60
   10ab+1c60 10ac+1c60 10ad+1c60 10ae+1c60 10af+1c60 10b0+1c60 10b1+1c60 10b2+1c60 10b3+1c60
   10b4+1c60 10b5+1c60 10b6+1c60 10b7+1c60 10b8+1c60 10b9+1c60 10ba+1c60 10bb+1c60 10bc+1c60
   10bd+1c60 10be+1c60 10bf+1c60 10c0+1c60 10c1+1c60 10c2+1c60 10c3+1c60 10c4+1c60 10c5+1c60
   10c7+1c60 10cd+1c60 10d0+bc0 10d1+bc0 10d2+bc0 10d3+bc0 10d4+bc0 10d5+bc0 10d6+bc0
   10d7+bc0 10d8+bc0 10d9+bc0 10da+bc0 10db+bc0 10dc+bc0 10dd+bc0 10de+bc0 10df+bc0 10e0+bc0
   10e1+bc0 10e2+bc0 10e3+bc0 10e4+bc0 10e5+bc0 10e6+bc0 10e7+bc0 10e8+bc0 10e9+bc0 10ea+bc0
   10eb+bc0 10ec+bc0 10ed+bc0 10ee+bc0 10ef+bc0 10f0+bc0 10f1+bc0 10f2+bc0 10f3+bc0 10f4+bc0
   10f5+bc0 10f6+bc0 10f7+bc0 10f8+bc0 10f9+bc0 10fa+bc0 10fd+bc0 10fe+bc0 10ff+bc0 13a0+97d0
   13a1+97d0 13a2+97d0 13a3+97d0 13a4+97d0 13a5+97d0 13a6+97d0 13a7+97d0 13a8+97d0 13a9+97d0
   13aa+97d0 13ab+97d0 13ac+97d0 13ad+97d0 13ae+97d0 13af+97d0 13b0+97d0 13b1+97d0 13b2+97d0
   13b3+97d0 13b4+97d0 13b5+97d0 13b6+97d0 13b7+97d0 13b8+97d0 13b9+97d0 13ba+97d0 13bb+97d0
   13bc+97d0 13bd+97d0 13be+97d0 13bf+97d0 13c0+97d0 13c1+97d0 13c2+97d0 13c3+97d0 13c4+97d0
   13c5+97d0 13c6+97d0 13c7+97d0 13c8+97d0 13c9+97d0 13ca+97d0 13cb+97d0 13cc+97d0 13cd+97d0
   13ce+97d0 13cf+97d0 13d0+97d0 13d1+97d0 13d2+97d0 13d3+97d0 13d4+97d0 13d5+97d0 13d6+97d0
   13d7+97d0 13d8+97d0 13d9+97d0 13da+97d0 13db+97d0 13dc+97d0 13dd+97d0 13de+97d0 13df+97d0
   13e0+97d0 13e1+97d0 13e2+97d0 13e3+97d0 13e4+97d0 13e5+97d0 13e6+97d0 13e7+97d0 13e8+97d0
   13e9+97d0 13ea+97d0 13eb+97d0 13ec+97d0 13ed+97d0 13ee+97d0 13ef+97d0 13f0+8 13f1+8 13f2+8
   13f3+8 13f4+8 13f5+8 1c88+89c2+1 1c89+1 1d79+8a04 1d7d+ee6 1d8e+8a38 1e00+1 1e02+1 1e04+1
   1e06+1 1e08+1 1e0a+1 1e0c+1 1e0e+1 1e10+1 1e12+1 1e14+1 1e16+1 1e18+1 1e1a+1 1e1c+1 1e1e+1
   1e20+1 1e22+1 1e24+1 1e26+1 1e28+1 1e2a+1 1e2c+1 1e2e+1 1e30+1 1e32+1 1e34+1 1e36+1 1e38+1
   1e3a+1 1e3c+1 1e3e+1 1e40+1 1e42+1 1e44+1 1e46+1 1e48+1 1e4a+1 1e4c+1 1e4e+1 1e50+1 1e52+1
   1e54+1 1e56+1 1e58+1 1e5a+1 1e5c+1 1e5e+1 1e60+1+3a 1e62+1 1e64+1 1e66+1 1e68+1 1e6a+1
   1e6c+1 1e6e+1 1e70+1 1e72+1 1e74+1 1e76+1 1e78+1 1e7a+1 1e7c+1 1e7e+1 1e80+1 1e82+1 1e84+1
   1e86+1 1e88+1 1e8a+1 1e8c+1 1e8e+1 1e90+1 1e92+1 1e94+1 1ea0+1 1ea2+1 1ea4+1 1ea6+1 1ea8+1
   1eaa+1 1eac+1 1eae+1 1eb0+1 1eb2+1 1eb4+1 1eb6+1 1eb8+1 1eba+1 1ebc+1 1ebe+1 1ec0+1 1ec2+1
   1ec4+1 1ec6+1 1ec8+1 1eca+1 1ecc+1 1ece+1 1ed0+1 1ed2+1 1ed4+1 1ed6+1 1ed8+1 1eda+1 1edc+1
   1ede+1 1ee0+1 1ee2+1 1ee4+1 1ee6+1 1ee8+1 1eea+1 1eec+1 1eee+1 1ef0+1 1ef2+1 1ef4+1 1ef6+1
   1ef8+1 1efa+1 1efc+1 1efe+1 1f00+8 1f01+8 1f02+8 1f03+8 1f04+8 1f05+8 1f06+8 1f07+8 1f10+8
   1f11+8 1f12+8 1f13+8 1f14+8 1f15+8 1f20+8 1f21+8 1f22+8 1f23+8 1f24+8 1f25+8 1f26+8 1f27+8
   1f30+8 1f31+8 1f32+8 1f33+8 1f34+8 1f35+8 1f36+8 1f37+8 1f40+8 1f41+8 1f42+8 1f43+8 1f44+8
   1f45+8 1f51+8 1f53+8 1f55+8 1f57+8 1f60+8 1f61+8 1f62+8 1f63+8 1f64+8 1f65+8 1f66+8 1f67+8
   1f70+4a 1f71+4a 1f72+56 1f73+56 1f74+56 1f75+56 1f76+64 1f77+64 1f78+80 1f79+80 1f7a+70
   1f7b+70 1f7c+7e 1f7d+7e 1f80+8 1f81+8 1f82+8 1f83+8 1f84+8 1f85+8 1f86+8 1f87+8 1f90+8
   1f91+8 1f92+8 1f93+8 1f94+8 1f95+8 1f96+8 1f97+8 1fa0+8 1fa1+8 1fa2+8 1fa3+8 1fa4+8 1fa5+8
   1fa6+8 1fa7+8 1fb0+8 1fb1+8 1fb3+9 1fc3+9 1fd0+8 1fd1+8 1fe0+8 1fe1+8 1fe5+7 1ff3+9
   2132+1c 2160+10 2161+10 2162+10 2163+10 2164+10 2165+10 2166+10 2167+10 2168+10 2169+10
   216a+10 216b+10 216c+10 216d+10 216e+10 216f+10 2183+1 24b6+1a 24b7+1a 24b8+1a 24b9+1a
   24ba+1a 24bb+1a 24bc+1a 24bd+1a 24be+1a 24bf+1a 24c0+1a 24c1+1a 24c2+1a 24c3+1a 24c4+1a
   24c5+1a 24c6+1a 24c7+1a 24c8+1a 24c9+1a 24ca+1a 24cb+1a 24cc+1a 24cd+1a 24ce+1a 24cf+1a
   2c00+30 2c01+30 2c02+30 2c03+30 2c04+30 2c05+30 2c06+30 2c07+30 2c08+30 2c09+30 2c0a+30
   2c0b+30 2c0c+30 2c0d+30 2c0e+30 2c0f+30 2c10+30 2c11+30 2c12+30 2c13+30 2c14+30 2c15+30
   2c16+30 2c17+30 2c18+30 2c19+30 2c1a+30 2c1b+30 2c1c+30 2c1d+30 2c1e+30 2c1f+30 2c20+30
   2c21+30 2c22+30 2c23+30 2c24+30 2c25+30 2c26+30 2c27+30 2c28+30 2c29+30 2c2a+30 2c2b+30
   2c2c+30 2c2d+30 2c2e+30 2c2f+30 2c60+1 2c67+1 2c69+1 2c6b+1 2c72+1 2c75+1 2c80+1 2c82+1
   2c84+1 2c86+1 2c88+1 2c8a+1 2c8c+1 2c8e+1 2c90+1 2c92+1 2c94+1 2c96+1 2c98+1 2c9a+1 2c9c+1
   2c9e+1 2ca0+1 2ca2+1 2ca4+1 2ca6+1 2ca8+1 2caa+1 2cac+1 2cae+1 2cb0+1 2cb2+1 2cb4+1 2cb6+1
   2cb8+1 2cba+1 2cbc+1 2cbe+1 2cc0+1 2cc2+1 2cc4+1 2cc6+1 2cc8+1 2cca+1 2ccc+1 2cce+1 2cd0+1
   2cd2+1 2cd4+1 2cd6+1 2cd8+1 2cda+1 2cdc+1 2cde+1 2ce0+1 2ce2+1 2ceb+1 2ced+1 2cf2+1 a640+1
   a642+1 a644+1 a646+1 a648+1 a64c+1 a64e+1 a650+1 a652+1 a654+1 a656+1 a658+1 a65a+1 a65c+1
   a65e+1 a660+1 a662+1 a664+1 a666+1 a668+1 a66a+1 a66c+1 a680+1 a682+1 a684+1 a686+1 a688+1
   a68a+1 a68c+1 a68e+1 a690+1 a692+1 a694+1 a696+1 a698+1 a69a+1 a722+1 a724+1 a726+1 a728+1
   a72a+1 a72c+1 a72e+1 a732+1 a734+1 a736+1 a738+1 a73a+1 a73c+1 a73e+1 a740+1 a742+1 a744+1
   a746+1 a748+1 a74a+1 a74c+1 a74e+1 a750+1 a752+1 a754+1 a756+1 a758+1 a75a+1 a75c+1 a75e+1
   a760+1 a762+1 a764+1 a766+1 a768+1 a76a+1 a76c+1 a76e+1 a779+1 a77b+1 a77e+1 a780+1 a782+1
   a784+1 a786+1 a78b+1 a790+1 a792+1 a794+30 a796+1 a798+1 a79a+1 a79c+1 a79e+1 a7a0+1
   a7a2+1 a7a4+1 a7a6+1 a7a8+1 a7b3+3a0 a7b4+1 a7b6+1 a7b8+1 a7ba+1 a7bc+1 a7be+1 a7c0+1
   a7c2+1 a7c7+1 a7c9+1 a7cc+1 a7ce+1 a7d0+1 a7d2+1 a7d4+1 a7d6+1 a7d8+1 a7da+1 a7f5+1 fb05+1
   ff21+20 ff22+20 ff23+20 ff24+20 ff25+20 ff26+20 ff27+20 ff28+20 ff29+20 ff2a+20 ff2b+20
   ff2c+20 ff2d+20 ff2e+20 ff2f+20 ff30+20 ff31+20 ff32+20 ff33+20 ff34+20 ff35+20 ff36+20
   ff37+20 ff38+20 ff39+20 ff3a+20 10400+28 10401+28 10402+28 10403+28 10404+28 10405+28
   10406+28 10407+28 10408+28 10409+28 1040a+28 1040b+28 1040c+28 1040d+28 1040e+28 1040f+28
   10410+28 10411+28 10412+28 10413+28 10414+28 10415+28 10416+28 10417+28 10418+28 10419+28
   1041a+28 1041b+28 1041c+28 1041d+28 1041e+28 1041f+28 10420+28 10421+28 10422+28 10423+28
   10424+28 10425+28 10426+28 10427+28 104b0+28 104b1+28 104b2+28 104b3+28 104b4+28 104b5+28
   104b6+28 104b7+28 104b8+28 104b9+28 104ba+28 104bb+28 104bc+28 104bd+28 104be+28 104bf+28
   104c0+28 104c1+28 104c2+28 104c3+28 104c4+28 104c5+28 104c6+28 104c7+28 104c8+28 104c9+28
   104ca+28 104cb+28 104cc+28 104cd+28 104ce+28 104cf+28 104d0+28 104d1+28 104d2+28 104d3+28
   10570+27 10571+27 10572+27 10573+27 10574+27 10575+27 10576+27 10577+27 10578+27 10579+27
   1057a+27 1057c+27 1057d+27 1057e+27 1057f+27 10580+27 10581+27 10582+27 10583+27 10584+27
   10585+27 10586+27 10587+27 10588+27 10589+27 1058a+27 1058c+27 1058d+27 1058e+27 1058f+27
   10590+27 10591+27 10592+27 10594+27 10595+27 10c80+40 10c81+40 10c82+40 10c83+40 10c84+40
   10c85+40 10c86+40 10c87+40 10c88+40 10c89+40 10c8a+40 10c8b+40 10c8c+40 10c8d+40 10c8e+40
   10c8f+40 10c90+40 10c91+40 10c92+40 10c93+40 10c94+40 10c95+40 10c96+40 10c97+40 10c98+40
   10c99+40 10c9a+40 10c9b+40 10c9c+40 10c9d+40 10c9e+40 10c9f+40 10ca0+40 10ca1+40 10ca2+40
   10ca3+40 10ca4+40 10ca5+40 10ca6+40 10ca7+40 10ca8+40 10ca9+40 10caa+40 10cab+40 10cac+40
   10cad+40 10cae+40 10caf+40 10cb0+40 10cb1+40 10cb2+40 10d50+20 10d51+20 10d52+20 10d53+20
   10d54+20 10d55+20 10d56+20 10d57+20 10d58+20 10d59+20 10d5a+20 10d5b+20 10d5c+20 10d5d+20
   10d5e+20 10d5f+20 10d60+20 10d61+20 10d62+20 10d63+20 10d64+20 10d65+20 118a0+20 118a1+20
   118a2+20 118a3+20 118a4+20 118a5+20 118a6+20 118a7+20 118a8+20 118a9+20 118aa+20 118ab+20
   118ac+20 118ad+20 118ae+20 118af+20 118b0+20 118b1+20 118b2+20 118b3+20 118b4+20 118b5+20
   118b6+20 118b7+20 118b8+20 118b9+20 118ba+20 118bb+20 118bc+20 118bd+20 118be+20 118bf+20
   16e40+20 16e41+20 16e42+20 16e43+20 16e44+20 16e45+20 16e46+20 16e47+20 16e48+20 16e49+20
   16e4a+20 16e4b+20 16e4c+20 16e4d+20 16e4e+20 16e4f+20 16e50+20 16e51+20 16e52+20 16e53+20
   16e54+20 16e55+20 16e56+20 16e57+20 16e58+20 16e59+20 16e5a+20 16e5b+20 16e5c+20 16e5d+20
   16e5e+20 16e5f+20 16ea0+1b 16ea1+1b 16ea2+1b 16ea3+1b 16ea4+1b 16ea5+1b 16ea6+1b 16ea7+1b
   16ea8+1b 16ea9+1b 16eaa+1b 16eab+1b 16eac+1b 16ead+1b 16eae+1b 16eaf+1b 16eb0+1b 16eb1+1b
   16eb2+1b 16eb3+1b 16eb4+1b 16eb5+1b 16eb6+1b 16eb7+1b 16eb8+1b 1e900+22 1e901+22 1e902+22
   1e903+22 1e904+22 1e905+22 1e906+22 1e907+22 1e908+22 1e909+22 1e90a+22 1e90b+22 1e90c+22
   1e90d+22 1e90e+22 1e90f+22 1e910+22 1e911+22 1e912+22 1e913+22 1e914+22 1e915+22 1e916+22
   1e917+22 1e918+22 1e919+22 1e91a+22 1e91b+22 1e91c+22 1e91d+22 1e91e+22 1e91f+22 1e920+22
   1e921+22"

end Descent.Unicode
