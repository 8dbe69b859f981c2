import MarketChat.Unicode.Table
/-!
# The IDNA mapping table, as data

The status of every code point for mapping domain names (Unicode IDNA compatibility
processing, version 17.0), as runs: `V` valid, `D` deviation, `I` ignored, `X` disallowed,
and `M` mapped, followed by the code points it maps to (`41:M61` maps `A` to `a`). A mapped
entry covers its start alone unless the next entry starts later, in which case every code
point of the run maps to the same text.

Main definitions: `Unicode.idnaMappingText`.
-/

namespace MarketChat

namespace Unicode

/-- The IDNA mapping table, one `start:status` word per run. -/
def idnaMappingText : String :=
  String.join [
    "0:V 41:M61 42:M62 43:M63 44:M64 45:M65 46:M66 47:M67 48:M68 49:M69 4a:M6a 4b:M6b 4c:M6c ",
    "4d:M6d 4e:M6e 4f:M6f 50:M70 51:M71 52:M72 53:M73 54:M74 55:M75 56:M76 57:M77 58:M78 ",
    "59:M79 5a:M7a 5b:V 80:X a0:M20 a1:V a8:M20.308 a9:V aa:M61 ab:V ad:I ae:V af:M20.304 ",
    "b0:V b2:M32 b3:M33 b4:M20.301 b5:M3bc b6:V b8:M20.327 b9:M31 ba:M6f bb:V bc:M31.2044.34 ",
    "bd:M31.2044.32 be:M33.2044.34 bf:V c0:Me0 c1:Me1 c2:Me2 c3:Me3 c4:Me4 c5:Me5 c6:Me6 ",
    "c7:Me7 c8:Me8 c9:Me9 ca:Mea cb:Meb cc:Mec cd:Med ce:Mee cf:Mef d0:Mf0 d1:Mf1 d2:Mf2 ",
    "d3:Mf3 d4:Mf4 d5:Mf5 d6:Mf6 d7:V d8:Mf8 d9:Mf9 da:Mfa db:Mfb dc:Mfc dd:Mfd de:Mfe df:D ",
    "e0:V 100:M101 101:V 102:M103 103:V 104:M105 105:V 106:M107 107:V 108:M109 109:V 10a:M10b ",
    "10b:V 10c:M10d 10d:V 10e:M10f 10f:V 110:M111 111:V 112:M113 113:V 114:M115 115:V ",
    "116:M117 117:V 118:M119 119:V 11a:M11b 11b:V 11c:M11d 11d:V 11e:M11f 11f:V 120:M121 ",
    "121:V 122:M123 123:V 124:M125 125:V 126:M127 127:V 128:M129 129:V 12a:M12b 12b:V ",
    "12c:M12d 12d:V 12e:M12f 12f:V 130:M69.307 131:V 132:M69.6a 134:M135 135:V 136:M137 137:V ",
    "139:M13a 13a:V 13b:M13c 13c:V 13d:M13e 13e:V 13f:M6c.b7 141:M142 142:V 143:M144 144:V ",
    "145:M146 146:V 147:M148 148:V 149:M2bc.6e 14a:M14b 14b:V 14c:M14d 14d:V 14e:M14f 14f:V ",
    "150:M151 151:V 152:M153 153:V 154:M155 155:V 156:M157 157:V 158:M159 159:V 15a:M15b ",
    "15b:V 15c:M15d 15d:V 15e:M15f 15f:V 160:M161 161:V 162:M163 163:V 164:M165 165:V ",
    "166:M167 167:V 168:M169 169:V 16a:M16b 16b:V 16c:M16d 16d:V 16e:M16f 16f:V 170:M171 ",
    "171:V 172:M173 173:V 174:M175 175:V 176:M177 177:V 178:Mff 179:M17a 17a:V 17b:M17c 17c:V ",
    "17d:M17e 17e:V 17f:M73 180:V 181:M253 182:M183 183:V 184:M185 185:V 186:M254 187:M188 ",
    "188:V 189:M256 18a:M257 18b:M18c 18c:V 18e:M1dd 18f:M259 190:M25b 191:M192 192:V ",
    "193:M260 194:M263 195:V 196:M269 197:M268 198:M199 199:V 19c:M26f 19d:M272 19e:V ",
    "19f:M275 1a0:M1a1 1a1:V 1a2:M1a3 1a3:V 1a4:M1a5 1a5:V 1a6:M280 1a7:M1a8 1a8:V 1a9:M283 ",
    "1aa:V 1ac:M1ad 1ad:V 1ae:M288 1af:M1b0 1b0:V 1b1:M28a 1b2:M28b 1b3:M1b4 1b4:V 1b5:M1b6 ",
    "1b6:V 1b7:M292 1b8:M1b9 1b9:V 1bc:M1bd 1bd:V 1c4:M64.17e 1c7:M6c.6a 1ca:M6e.6a 1cd:M1ce ",
    "1ce:V 1cf:M1d0 1d0:V 1d1:M1d2 1d2:V 1d3:M1d4 1d4:V 1d5:M1d6 1d6:V 1d7:M1d8 1d8:V ",
    "1d9:M1da 1da:V 1db:M1dc 1dc:V 1de:M1df 1df:V 1e0:M1e1 1e1:V 1e2:M1e3 1e3:V 1e4:M1e5 ",
    "1e5:V 1e6:M1e7 1e7:V 1e8:M1e9 1e9:V 1ea:M1eb 1eb:V 1ec:M1ed 1ed:V 1ee:M1ef 1ef:V ",
    "1f1:M64.7a 1f4:M1f5 1f5:V 1f6:M195 1f7:M1bf 1f8:M1f9 1f9:V 1fa:M1fb 1fb:V 1fc:M1fd 1fd:V ",
    "1fe:M1ff 1ff:V 200:M201 201:V 202:M203 203:V 204:M205 205:V 206:M207 207:V 208:M209 ",
    "209:V 20a:M20b 20b:V 20c:M20d 20d:V 20e:M20f 20f:V 210:M211 211:V 212:M213 213:V ",
    "214:M215 215:V 216:M217 217:V 218:M219 219:V 21a:M21b 21b:V 21c:M21d 21d:V 21e:M21f ",
    "21f:V 220:M19e 221:V 222:M223 223:V 224:M225 225:V 226:M227 227:V 228:M229 229:V ",
    "22a:M22b 22b:V 22c:M22d 22d:V 22e:M22f 22f:V 230:M231 231:V 232:M233 233:V 23a:M2c65 ",
    "23b:M23c 23c:V 23d:M19a 23e:M2c66 23f:V 241:M242 242:V 243:M180 244:M289 245:M28c ",
    "246:M247 247:V 248:M249 249:V 24a:M24b 24b:V 24c:M24d 24d:V 24e:M24f 24f:V 2b0:M68 ",
    "2b1:M266 2b2:M6a 2b3:M72 2b4:M279 2b5:M27b 2b6:M281 2b7:M77 2b8:M79 2b9:V 2d8:M20.306 ",
    "2d9:M20.307 2da:M20.30a 2db:M20.328 2dc:M20.303 2dd:M20.30b 2de:V 2e0:M263 2e1:M6c ",
    "2e2:M73 2e3:M78 2e4:M295 2e5:V 340:M300 341:M301 342:V 343:M313 344:M308.301 345:M3b9 ",
    "346:V 34f:I 350:V 370:M371 371:V 372:M373 373:V 374:M2b9 375:V 376:M377 377:V 378:X ",
    "37a:M20.3b9 37b:V 37e:M3b 37f:M3f3 380:X 384:M20.301 385:M20.308.301 386:M3ac 387:Mb7 ",
    "388:M3ad 389:M3ae 38a:M3af 38b:X 38c:M3cc 38d:X 38e:M3cd 38f:M3ce 390:V 391:M3b1 ",
    "392:M3b2 393:M3b3 394:M3b4 395:M3b5 396:M3b6 397:M3b7 398:M3b8 399:M3b9 39a:M3ba ",
    "39b:M3bb 39c:M3bc 39d:M3bd 39e:M3be 39f:M3bf 3a0:M3c0 3a1:M3c1 3a2:X 3a3:M3c3 3a4:M3c4 ",
    "3a5:M3c5 3a6:M3c6 3a7:M3c7 3a8:M3c8 3a9:M3c9 3aa:M3ca 3ab:M3cb 3ac:V 3c2:D 3c3:V ",
    "3cf:M3d7 3d0:M3b2 3d1:M3b8 3d2:M3c5 3d3:M3cd 3d4:M3cb 3d5:M3c6 3d6:M3c0 3d7:V 3d8:M3d9 ",
    "3d9:V 3da:M3db 3db:V 3dc:M3dd 3dd:V 3de:M3df 3df:V 3e0:M3e1 3e1:V 3e2:M3e3 3e3:V ",
    "3e4:M3e5 3e5:V 3e6:M3e7 3e7:V 3e8:M3e9 3e9:V 3ea:M3eb 3eb:V 3ec:M3ed 3ed:V 3ee:M3ef ",
    "3ef:V 3f0:M3ba 3f1:M3c1 3f2:M3c3 3f3:V 3f4:M3b8 3f5:M3b5 3f6:V 3f7:M3f8 3f8:V 3f9:M3c3 ",
    "3fa:M3fb 3fb:V 3fd:M37b 3fe:M37c 3ff:M37d 400:M450 401:M451 402:M452 403:M453 404:M454 ",
    "405:M455 406:M456 407:M457 408:M458 409:M459 40a:M45a 40b:M45b 40c:M45c 40d:M45d ",
    "40e:M45e 40f:M45f 410:M430 411:M431 412:M432 413:M433 414:M434 415:M435 416:M436 ",
    "417:M437 418:M438 419:M439 41a:M43a 41b:M43b 41c:M43c 41d:M43d 41e:M43e 41f:M43f ",
    "420:M440 421:M441 422:M442 423:M443 424:M444 425:M445 426:M446 427:M447 428:M448 ",
    "429:M449 42a:M44a 42b:M44b 42c:M44c 42d:M44d 42e:M44e 42f:M44f 430:V 460:M461 461:V ",
    "462:M463 463:V 464:M465 465:V 466:M467 467:V 468:M469 469:V 46a:M46b 46b:V 46c:M46d ",
    "46d:V 46e:M46f 46f:V 470:M471 471:V 472:M473 473:V 474:M475 475:V 476:M477 477:V ",
    "478:M479 479:V 47a:M47b 47b:V 47c:M47d 47d:V 47e:M47f 47f:V 480:M481 481:V 48a:M48b ",
    "48b:V 48c:M48d 48d:V 48e:M48f 48f:V 490:M491 491:V 492:M493 493:V 494:M495 495:V ",
    "496:M497 497:V 498:M499 499:V 49a:M49b 49b:V 49c:M49d 49d:V 49e:M49f 49f:V 4a0:M4a1 ",
    "4a1:V 4a2:M4a3 4a3:V 4a4:M4a5 4a5:V 4a6:M4a7 4a7:V 4a8:M4a9 4a9:V 4aa:M4ab 4ab:V ",
    "4ac:M4ad 4ad:V 4ae:M4af 4af:V 4b0:M4b1 4b1:V 4b2:M4b3 4b3:V 4b4:M4b5 4b5:V 4b6:M4b7 ",
    "4b7:V 4b8:M4b9 4b9:V 4ba:M4bb 4bb:V 4bc:M4bd 4bd:V 4be:M4bf 4bf:V 4c0:M4cf 4c1:M4c2 ",
    "4c2:V 4c3:M4c4 4c4:V 4c5:M4c6 4c6:V 4c7:M4c8 4c8:V 4c9:M4ca 4ca:V 4cb:M4cc 4cc:V ",
    "4cd:M4ce 4ce:V 4d0:M4d1 4d1:V 4d2:M4d3 4d3:V 4d4:M4d5 4d5:V 4d6:M4d7 4d7:V 4d8:M4d9 ",
    "4d9:V 4da:M4db 4db:V 4dc:M4dd 4dd:V 4de:M4df 4df:V 4e0:M4e1 4e1:V 4e2:M4e3 4e3:V ",
    "4e4:M4e5 4e5:V 4e6:M4e7 4e7:V 4e8:M4e9 4e9:V 4ea:M4eb 4eb:V 4ec:M4ed 4ed:V 4ee:M4ef ",
    "4ef:V 4f0:M4f1 4f1:V 4f2:M4f3 4f3:V 4f4:M4f5 4f5:V 4f6:M4f7 4f7:V 4f8:M4f9 4f9:V ",
    "4fa:M4fb 4fb:V 4fc:M4fd 4fd:V 4fe:M4ff 4ff:V 500:M501 501:V 502:M503 503:V 504:M505 ",
    "505:V 506:M507 507:V 508:M509 509:V 50a:M50b 50b:V 50c:M50d 50d:V 50e:M50f 50f:V ",
    "510:M511 511:V 512:M513 513:V 514:M515 515:V 516:M517 517:V 518:M519 519:V 51a:M51b ",
    "51b:V 51c:M51d 51d:V 51e:M51f 51f:V 520:M521 521:V 522:M523 523:V 524:M525 525:V ",
    "526:M527 527:V 528:M529 529:V 52a:M52b 52b:V 52c:M52d 52d:V 52e:M52f 52f:V 530:X ",
    "531:M561 532:M562 533:M563 534:M564 535:M565 536:M566 537:M567 538:M568 539:M569 ",
    "53a:M56a 53b:M56b 53c:M56c 53d:M56d 53e:M56e 53f:M56f 540:M570 541:M571 542:M572 ",
    "543:M573 544:M574 545:M575 546:M576 547:M577 548:M578 549:M579 54a:M57a 54b:M57b ",
    "54c:M57c 54d:M57d 54e:M57e 54f:M57f 550:M580 551:M581 552:M582 553:M583 554:M584 ",
    "555:M585 556:M586 557:X 559:V 587:M565.582 588:V 58b:X 58d:V 590:X 591:V 5c8:X 5d0:V ",
    "5eb:X 5ef:V 5f5:X 606:V 61c:X 61d:V 675:M627.674 676:M648.674 677:M6c7.674 678:M64a.674 ",
    "679:V 6dd:X 6de:V 70e:X 710:V 74b:X 74d:V 7b2:X 7c0:V 7fb:X 7fd:V 82e:X 830:V 83f:X ",
    "840:V 85c:X 85e:V 85f:X 860:V 86b:X 870:V 890:X 897:V 8e2:X 8e3:V 958:M915.93c ",
    "959:M916.93c 95a:M917.93c 95b:M91c.93c 95c:M921.93c 95d:M922.93c 95e:M92b.93c ",
    "95f:M92f.93c 960:V 984:X 985:V 98d:X 98f:V 991:X 993:V 9a9:X 9aa:V 9b1:X 9b2:V 9b3:X ",
    "9b6:V 9ba:X 9bc:V 9c5:X 9c7:V 9c9:X 9cb:V 9cf:X 9d7:V 9d8:X 9dc:M9a1.9bc 9dd:M9a2.9bc ",
    "9de:X 9df:M9af.9bc 9e0:V 9e4:X 9e6:V 9ff:X a01:V a04:X a05:V a0b:X a0f:V a11:X a13:V ",
    "a29:X a2a:V a31:X a32:V a33:Ma32.a3c a34:X a35:V a36:Ma38.a3c a37:X a38:V a3a:X a3c:V ",
    "a3d:X a3e:V a43:X a47:V a49:X a4b:V a4e:X a51:V a52:X a59:Ma16.a3c a5a:Ma17.a3c ",
    "a5b:Ma1c.a3c a5c:V a5d:X a5e:Ma2b.a3c a5f:X a66:V a77:X a81:V a84:X a85:V a8e:X a8f:V ",
    "a92:X a93:V aa9:X aaa:V ab1:X ab2:V ab4:X ab5:V aba:X abc:V ac6:X ac7:V aca:X acb:V ",
    "ace:X ad0:V ad1:X ae0:V ae4:X ae6:V af2:X af9:V b00:X b01:V b04:X b05:V b0d:X b0f:V ",
    "b11:X b13:V b29:X b2a:V b31:X b32:V b34:X b35:V b3a:X b3c:V b45:X b47:V b49:X b4b:V ",
    "b4e:X b55:V b58:X b5c:Mb21.b3c b5d:Mb22.b3c b5e:X b5f:V b64:X b66:V b78:X b82:V b84:X ",
    "b85:V b8b:X b8e:V b91:X b92:V b96:X b99:V b9b:X b9c:V b9d:X b9e:V ba0:X ba3:V ba5:X ",
    "ba8:V bab:X bae:V bba:X bbe:V bc3:X bc6:V bc9:X bca:V bce:X bd0:V bd1:X bd7:V bd8:X ",
    "be6:V bfb:X c00:V c0d:X c0e:V c11:X c12:V c29:X c2a:V c3a:X c3c:V c45:X c46:V c49:X ",
    "c4a:V c4e:X c55:V c57:X c58:V c5b:X c5c:V c5e:X c60:V c64:X c66:V c70:X c77:V c8d:X ",
    "c8e:V c91:X c92:V ca9:X caa:V cb4:X cb5:V cba:X cbc:V cc5:X cc6:V cc9:X cca:V cce:X ",
    "cd5:V cd7:X cdc:V cdf:X ce0:V ce4:X ce6:V cf0:X cf1:V cf4:X d00:V d0d:X d0e:V d11:X ",
    "d12:V d45:X d46:V d49:X d4a:V d50:X d54:V d64:X d66:V d80:X d81:V d84:X d85:V d97:X ",
    "d9a:V db2:X db3:V dbc:X dbd:V dbe:X dc0:V dc7:X dca:V dcb:X dcf:V dd5:X dd6:V dd7:X ",
    "dd8:V de0:X de6:V df0:X df2:V df5:X e01:V e33:Me4d.e32 e34:V e3b:X e3f:V e5c:X e81:V ",
    "e83:X e84:V e85:X e86:V e8b:X e8c:V ea4:X ea5:V ea6:X ea7:V eb3:Mecd.eb2 eb4:V ebe:X ",
    "ec0:V ec5:X ec6:V ec7:X ec8:V ecf:X ed0:V eda:X edc:Meab.e99 edd:Meab.ea1 ede:V ee0:X ",
    "f00:V f0c:Mf0b f0d:V f43:Mf42.fb7 f44:V f48:X f49:V f4d:Mf4c.fb7 f4e:V f52:Mf51.fb7 ",
    "f53:V f57:Mf56.fb7 f58:V f5c:Mf5b.fb7 f5d:V f69:Mf40.fb5 f6a:V f6d:X f71:V f73:Mf71.f72 ",
    "f74:V f75:Mf71.f74 f76:Mfb2.f80 f77:Mfb2.f71.f80 f78:Mfb3.f80 f79:Mfb3.f71.f80 f7a:V ",
    "f81:Mf71.f80 f82:V f93:Mf92.fb7 f94:V f98:X f99:V f9d:Mf9c.fb7 f9e:V fa2:Mfa1.fb7 fa3:V ",
    "fa7:Mfa6.fb7 fa8:V fac:Mfab.fb7 fad:V fb9:Mf90.fb5 fba:V fbd:X fbe:V fcd:X fce:V fdb:X ",
    "1000:V 10a0:M2d00 10a1:M2d01 10a2:M2d02 10a3:M2d03 10a4:M2d04 10a5:M2d05 10a6:M2d06 ",
    "10a7:M2d07 10a8:M2d08 10a9:M2d09 10aa:M2d0a 10ab:M2d0b 10ac:M2d0c 10ad:M2d0d 10ae:M2d0e ",
    "10af:M2d0f 10b0:M2d10 10b1:M2d11 10b2:M2d12 10b3:M2d13 10b4:M2d14 10b5:M2d15 10b6:M2d16 ",
    "10b7:M2d17 10b8:M2d18 10b9:M2d19 10ba:M2d1a 10bb:M2d1b 10bc:M2d1c 10bd:M2d1d 10be:M2d1e ",
    "10bf:M2d1f 10c0:M2d20 10c1:M2d21 10c2:M2d22 10c3:M2d23 10c4:M2d24 10c5:M2d25 10c6:X ",
    "10c7:M2d27 10c8:X 10cd:M2d2d 10ce:X 10d0:V 10fc:M10dc 10fd:V 115f:I 1161:V 1249:X 124a:V ",
    "124e:X 1250:V 1257:X 1258:V 1259:X 125a:V 125e:X 1260:V 1289:X 128a:V 128e:X 1290:V ",
    "12b1:X 12b2:V 12b6:X 12b8:V 12bf:X 12c0:V 12c1:X 12c2:V 12c6:X 12c8:V 12d7:X 12d8:V ",
    "1311:X 1312:V 1316:X 1318:V 135b:X 135d:V 137d:X 1380:V 139a:X 13a0:V 13f6:X 13f8:M13f0 ",
    "13f9:M13f1 13fa:M13f2 13fb:M13f3 13fc:M13f4 13fd:M13f5 13fe:X 1400:V 1680:X 1681:V ",
    "169d:X 16a0:V 16f9:X 1700:V 1716:X 171f:V 1737:X 1740:V 1754:X 1760:V 176d:X 176e:V ",
    "1771:X 1772:V 1774:X 1780:V 17b4:I 17b6:V 17de:X 17e0:V 17ea:X 17f0:V 17fa:X 1800:V ",
    "180b:I 1810:V 181a:X 1820:V 1879:X 1880:V 18ab:X 18b0:V 18f6:X 1900:V 191f:X 1920:V ",
    "192c:X 1930:V 193c:X 1940:V 1941:X 1944:V 196e:X 1970:V 1975:X 1980:V 19ac:X 19b0:V ",
    "19ca:X 19d0:V 19db:X 19de:V 1a1c:X 1a1e:V 1a5f:X 1a60:V 1a7d:X 1a7f:V 1a8a:X 1a90:V ",
    "1a9a:X 1aa0:V 1aae:X 1ab0:V 1ade:X 1ae0:V 1aec:X 1b00:V 1b4d:X 1b4e:V 1bf4:X 1bfc:V ",
    "1c38:X 1c3b:V 1c4a:X 1c4d:V 1c80:M432 1c81:M434 1c82:M43e 1c83:M441 1c84:M442 1c86:M44a ",
    "1c87:M463 1c88:Ma64b 1c89:M1c8a 1c8a:V 1c8b:X 1c90:M10d0 1c91:M10d1 1c92:M10d2 ",
    "1c93:M10d3 1c94:M10d4 1c95:M10d5 1c96:M10d6 1c97:M10d7 1c98:M10d8 1c99:M10d9 1c9a:M10da ",
    "1c9b:M10db 1c9c:M10dc 1c9d:M10dd 1c9e:M10de 1c9f:M10df 1ca0:M10e0 1ca1:M10e1 1ca2:M10e2 ",
    "1ca3:M10e3 1ca4:M10e4 1ca5:M10e5 1ca6:M10e6 1ca7:M10e7 1ca8:M10e8 1ca9:M10e9 1caa:M10ea ",
    "1cab:M10eb 1cac:M10ec 1cad:M10ed 1cae:M10ee 1caf:M10ef 1cb0:M10f0 1cb1:M10f1 1cb2:M10f2 ",
    "1cb3:M10f3 1cb4:M10f4 1cb5:M10f5 1cb6:M10f6 1cb7:M10f7 1cb8:M10f8 1cb9:M10f9 1cba:M10fa ",
    "1cbb:X 1cbd:M10fd 1cbe:M10fe 1cbf:M10ff 1cc0:V 1cc8:X 1cd0:V 1cfb:X 1d00:V 1d2c:M61 ",
    "1d2d:Me6 1d2e:M62 1d2f:V 1d30:M64 1d31:M65 1d32:M1dd 1d33:M67 1d34:M68 1d35:M69 1d36:M6a ",
    "1d37:M6b 1d38:M6c 1d39:M6d 1d3a:M6e 1d3b:V 1d3c:M6f 1d3d:M223 1d3e:M70 1d3f:M72 1d40:M74 ",
    "1d41:M75 1d42:M77 1d43:M61 1d44:M250 1d45:M251 1d46:M1d02 1d47:M62 1d48:M64 1d49:M65 ",
    "1d4a:M259 1d4b:M25b 1d4c:M25c 1d4d:M67 1d4e:V 1d4f:M6b 1d50:M6d 1d51:M14b 1d52:M6f ",
    "1d53:M254 1d54:M1d16 1d55:M1d17 1d56:M70 1d57:M74 1d58:M75 1d59:M1d1d 1d5a:M26f 1d5b:M76 ",
    "1d5c:M1d25 1d5d:M3b2 1d5e:M3b3 1d5f:M3b4 1d60:M3c6 1d61:M3c7 1d62:M69 1d63:M72 1d64:M75 ",
    "1d65:M76 1d66:M3b2 1d67:M3b3 1d68:M3c1 1d69:M3c6 1d6a:M3c7 1d6b:V 1d78:M43d 1d79:V ",
    "1d9b:M252 1d9c:M63 1d9d:M255 1d9e:Mf0 1d9f:M25c 1da0:M66 1da1:M25f 1da2:M261 1da3:M265 ",
    "1da4:M268 1da5:M269 1da6:M26a 1da7:M1d7b 1da8:M29d 1da9:M26d 1daa:M1d85 1dab:M29f ",
    "1dac:M271 1dad:M270 1dae:M272 1daf:M273 1db0:M274 1db1:M275 1db2:M278 1db3:M282 ",
    "1db4:M283 1db5:M1ab 1db6:M289 1db7:M28a 1db8:M1d1c 1db9:M28b 1dba:M28c 1dbb:M7a ",
    "1dbc:M290 1dbd:M291 1dbe:M292 1dbf:M3b8 1dc0:V 1e00:M1e01 1e01:V 1e02:M1e03 1e03:V ",
    "1e04:M1e05 1e05:V 1e06:M1e07 1e07:V 1e08:M1e09 1e09:V 1e0a:M1e0b 1e0b:V 1e0c:M1e0d ",
    "1e0d:V 1e0e:M1e0f 1e0f:V 1e10:M1e11 1e11:V 1e12:M1e13 1e13:V 1e14:M1e15 1e15:V ",
    "1e16:M1e17 1e17:V 1e18:M1e19 1e19:V 1e1a:M1e1b 1e1b:V 1e1c:M1e1d 1e1d:V 1e1e:M1e1f ",
    "1e1f:V 1e20:M1e21 1e21:V 1e22:M1e23 1e23:V 1e24:M1e25 1e25:V 1e26:M1e27 1e27:V ",
    "1e28:M1e29 1e29:V 1e2a:M1e2b 1e2b:V 1e2c:M1e2d 1e2d:V 1e2e:M1e2f 1e2f:V 1e30:M1e31 ",
    "1e31:V 1e32:M1e33 1e33:V 1e34:M1e35 1e35:V 1e36:M1e37 1e37:V 1e38:M1e39 1e39:V ",
    "1e3a:M1e3b 1e3b:V 1e3c:M1e3d 1e3d:V 1e3e:M1e3f 1e3f:V 1e40:M1e41 1e41:V 1e42:M1e43 ",
    "1e43:V 1e44:M1e45 1e45:V 1e46:M1e47 1e47:V 1e48:M1e49 1e49:V 1e4a:M1e4b 1e4b:V ",
    "1e4c:M1e4d 1e4d:V 1e4e:M1e4f 1e4f:V 1e50:M1e51 1e51:V 1e52:M1e53 1e53:V 1e54:M1e55 ",
    "1e55:V 1e56:M1e57 1e57:V 1e58:M1e59 1e59:V 1e5a:M1e5b 1e5b:V 1e5c:M1e5d 1e5d:V ",
    "1e5e:M1e5f 1e5f:V 1e60:M1e61 1e61:V 1e62:M1e63 1e63:V 1e64:M1e65 1e65:V 1e66:M1e67 ",
    "1e67:V 1e68:M1e69 1e69:V 1e6a:M1e6b 1e6b:V 1e6c:M1e6d 1e6d:V 1e6e:M1e6f 1e6f:V ",
    "1e70:M1e71 1e71:V 1e72:M1e73 1e73:V 1e74:M1e75 1e75:V 1e76:M1e77 1e77:V 1e78:M1e79 ",
    "1e79:V 1e7a:M1e7b 1e7b:V 1e7c:M1e7d 1e7d:V 1e7e:M1e7f 1e7f:V 1e80:M1e81 1e81:V ",
    "1e82:M1e83 1e83:V 1e84:M1e85 1e85:V 1e86:M1e87 1e87:V 1e88:M1e89 1e89:V 1e8a:M1e8b ",
    "1e8b:V 1e8c:M1e8d 1e8d:V 1e8e:M1e8f 1e8f:V 1e90:M1e91 1e91:V 1e92:M1e93 1e93:V ",
    "1e94:M1e95 1e95:V 1e9a:M61.2be 1e9b:M1e61 1e9c:V 1e9e:Mdf 1e9f:V 1ea0:M1ea1 1ea1:V ",
    "1ea2:M1ea3 1ea3:V 1ea4:M1ea5 1ea5:V 1ea6:M1ea7 1ea7:V 1ea8:M1ea9 1ea9:V 1eaa:M1eab ",
    "1eab:V 1eac:M1ead 1ead:V 1eae:M1eaf 1eaf:V 1eb0:M1eb1 1eb1:V 1eb2:M1eb3 1eb3:V ",
    "1eb4:M1eb5 1eb5:V 1eb6:M1eb7 1eb7:V 1eb8:M1eb9 1eb9:V 1eba:M1ebb 1ebb:V 1ebc:M1ebd ",
    "1ebd:V 1ebe:M1ebf 1ebf:V 1ec0:M1ec1 1ec1:V 1ec2:M1ec3 1ec3:V 1ec4:M1ec5 1ec5:V ",
    "1ec6:M1ec7 1ec7:V 1ec8:M1ec9 1ec9:V 1eca:M1ecb 1ecb:V 1ecc:M1ecd 1ecd:V 1ece:M1ecf ",
    "1ecf:V 1ed0:M1ed1 1ed1:V 1ed2:M1ed3 1ed3:V 1ed4:M1ed5 1ed5:V 1ed6:M1ed7 1ed7:V ",
    "1ed8:M1ed9 1ed9:V 1eda:M1edb 1edb:V 1edc:M1edd 1edd:V 1ede:M1edf 1edf:V 1ee0:M1ee1 ",
    "1ee1:V 1ee2:M1ee3 1ee3:V 1ee4:M1ee5 1ee5:V 1ee6:M1ee7 1ee7:V 1ee8:M1ee9 1ee9:V ",
    "1eea:M1eeb 1eeb:V 1eec:M1eed 1eed:V 1eee:M1eef 1eef:V 1ef0:M1ef1 1ef1:V 1ef2:M1ef3 ",
    "1ef3:V 1ef4:M1ef5 1ef5:V 1ef6:M1ef7 1ef7:V 1ef8:M1ef9 1ef9:V 1efa:M1efb 1efb:V ",
    "1efc:M1efd 1efd:V 1efe:M1eff 1eff:V 1f08:M1f00 1f09:M1f01 1f0a:M1f02 1f0b:M1f03 ",
    "1f0c:M1f04 1f0d:M1f05 1f0e:M1f06 1f0f:M1f07 1f10:V 1f16:X 1f18:M1f10 1f19:M1f11 ",
    "1f1a:M1f12 1f1b:M1f13 1f1c:M1f14 1f1d:M1f15 1f1e:X 1f20:V 1f28:M1f20 1f29:M1f21 ",
    "1f2a:M1f22 1f2b:M1f23 1f2c:M1f24 1f2d:M1f25 1f2e:M1f26 1f2f:M1f27 1f30:V 1f38:M1f30 ",
    "1f39:M1f31 1f3a:M1f32 1f3b:M1f33 1f3c:M1f34 1f3d:M1f35 1f3e:M1f36 1f3f:M1f37 1f40:V ",
    "1f46:X 1f48:M1f40 1f49:M1f41 1f4a:M1f42 1f4b:M1f43 1f4c:M1f44 1f4d:M1f45 1f4e:X 1f50:V ",
    "1f58:X 1f59:M1f51 1f5a:X 1f5b:M1f53 1f5c:X 1f5d:M1f55 1f5e:X 1f5f:M1f57 1f60:V ",
    "1f68:M1f60 1f69:M1f61 1f6a:M1f62 1f6b:M1f63 1f6c:M1f64 1f6d:M1f65 1f6e:M1f66 1f6f:M1f67 ",
    "1f70:V 1f71:M3ac 1f72:V 1f73:M3ad 1f74:V 1f75:M3ae 1f76:V 1f77:M3af 1f78:V 1f79:M3cc ",
    "1f7a:V 1f7b:M3cd 1f7c:V 1f7d:M3ce 1f7e:X 1f80:M1f00.3b9 1f81:M1f01.3b9 1f82:M1f02.3b9 ",
    "1f83:M1f03.3b9 1f84:M1f04.3b9 1f85:M1f05.3b9 1f86:M1f06.3b9 1f87:M1f07.3b9 ",
    "1f88:M1f00.3b9 1f89:M1f01.3b9 1f8a:M1f02.3b9 1f8b:M1f03.3b9 1f8c:M1f04.3b9 ",
    "1f8d:M1f05.3b9 1f8e:M1f06.3b9 1f8f:M1f07.3b9 1f90:M1f20.3b9 1f91:M1f21.3b9 ",
    "1f92:M1f22.3b9 1f93:M1f23.3b9 1f94:M1f24.3b9 1f95:M1f25.3b9 1f96:M1f26.3b9 ",
    "1f97:M1f27.3b9 1f98:M1f20.3b9 1f99:M1f21.3b9 1f9a:M1f22.3b9 1f9b:M1f23.3b9 ",
    "1f9c:M1f24.3b9 1f9d:M1f25.3b9 1f9e:M1f26.3b9 1f9f:M1f27.3b9 1fa0:M1f60.3b9 ",
    "1fa1:M1f61.3b9 1fa2:M1f62.3b9 1fa3:M1f63.3b9 1fa4:M1f64.3b9 1fa5:M1f65.3b9 ",
    "1fa6:M1f66.3b9 1fa7:M1f67.3b9 1fa8:M1f60.3b9 1fa9:M1f61.3b9 1faa:M1f62.3b9 ",
    "1fab:M1f63.3b9 1fac:M1f64.3b9 1fad:M1f65.3b9 1fae:M1f66.3b9 1faf:M1f67.3b9 1fb0:V ",
    "1fb2:M1f70.3b9 1fb3:M3b1.3b9 1fb4:M3ac.3b9 1fb5:X 1fb6:V 1fb7:M1fb6.3b9 1fb8:M1fb0 ",
    "1fb9:M1fb1 1fba:M1f70 1fbb:M3ac 1fbc:M3b1.3b9 1fbd:M20.313 1fbe:M3b9 1fbf:M20.313 ",
    "1fc0:M20.342 1fc1:M20.308.342 1fc2:M1f74.3b9 1fc3:M3b7.3b9 1fc4:M3ae.3b9 1fc5:X 1fc6:V ",
    "1fc7:M1fc6.3b9 1fc8:M1f72 1fc9:M3ad 1fca:M1f74 1fcb:M3ae 1fcc:M3b7.3b9 1fcd:M20.313.300 ",
    "1fce:M20.313.301 1fcf:M20.313.342 1fd0:V 1fd3:M390 1fd4:X 1fd6:V 1fd8:M1fd0 1fd9:M1fd1 ",
    "1fda:M1f76 1fdb:M3af 1fdc:X 1fdd:M20.314.300 1fde:M20.314.301 1fdf:M20.314.342 1fe0:V ",
    "1fe3:M3b0 1fe4:V 1fe8:M1fe0 1fe9:M1fe1 1fea:M1f7a 1feb:M3cd 1fec:M1fe5 1fed:M20.308.300 ",
    "1fee:M20.308.301 1fef:M60 1ff0:X 1ff2:M1f7c.3b9 1ff3:M3c9.3b9 1ff4:M3ce.3b9 1ff5:X ",
    "1ff6:V 1ff7:M1ff6.3b9 1ff8:M1f78 1ff9:M3cc 1ffa:M1f7c 1ffb:M3ce 1ffc:M3c9.3b9 ",
    "1ffd:M20.301 1ffe:M20.314 1fff:X 2000:M20 200b:I 200c:D 200e:X 2010:V 2011:M2010 2012:V ",
    "2017:M20.333 2018:V 2024:X 2027:V 2028:X 202f:M20 2030:V 2033:M2032.2032 ",
    "2034:M2032.2032.2032 2035:V 2036:M2035.2035 2037:M2035.2035.2035 2038:V 203c:M21.21 ",
    "203d:V 203e:M20.305 203f:V 2047:M3f.3f 2048:M3f.21 2049:M21.3f 204a:V ",
    "2057:M2032.2032.2032.2032 2058:V 205f:M20 2060:I 2065:X 206a:I 2070:M30 2071:M69 2072:X ",
    "2074:M34 2075:M35 2076:M36 2077:M37 2078:M38 2079:M39 207a:M2b 207b:M2212 207c:M3d ",
    "207d:M28 207e:M29 207f:M6e 2080:M30 2081:M31 2082:M32 2083:M33 2084:M34 2085:M35 ",
    "2086:M36 2087:M37 2088:M38 2089:M39 208a:M2b 208b:M2212 208c:M3d 208d:M28 208e:M29 ",
    "208f:X 2090:M61 2091:M65 2092:M6f 2093:M78 2094:M259 2095:M68 2096:M6b 2097:M6c 2098:M6d ",
    "2099:M6e 209a:M70 209b:M73 209c:M74 209d:X 20a0:V 20a8:M72.73 20a9:V 20c2:X 20d0:V ",
    "20f1:X 2100:M61.2f.63 2101:M61.2f.73 2102:M63 2103:Mb0.63 2104:V 2105:M63.2f.6f ",
    "2106:M63.2f.75 2107:M25b 2108:V 2109:Mb0.66 210a:M67 210b:M68 210f:M127 2110:M69 ",
    "2112:M6c 2114:V 2115:M6e 2116:M6e.6f 2117:V 2119:M70 211a:M71 211b:M72 211e:V ",
    "2120:M73.6d 2121:M74.65.6c 2122:M74.6d 2123:V 2124:M7a 2125:V 2126:M3c9 2127:V 2128:M7a ",
    "2129:V 212a:M6b 212b:Me5 212c:M62 212d:M63 212e:V 212f:M65 2131:M66 2132:M214e 2133:M6d ",
    "2134:M6f 2135:M5d0 2136:M5d1 2137:M5d2 2138:M5d3 2139:M69 213a:V 213b:M66.61.78 ",
    "213c:M3c0 213d:M3b3 213f:M3c0 2140:M2211 2141:V 2145:M64 2147:M65 2148:M69 2149:M6a ",
    "214a:V 2150:M31.2044.37 2151:M31.2044.39 2152:M31.2044.31.30 2153:M31.2044.33 ",
    "2154:M32.2044.33 2155:M31.2044.35 2156:M32.2044.35 2157:M33.2044.35 2158:M34.2044.35 ",
    "2159:M31.2044.36 215a:M35.2044.36 215b:M31.2044.38 215c:M33.2044.38 215d:M35.2044.38 ",
    "215e:M37.2044.38 215f:M31.2044 2160:M69 2161:M69.69 2162:M69.69.69 2163:M69.76 2164:M76 ",
    "2165:M76.69 2166:M76.69.69 2167:M76.69.69.69 2168:M69.78 2169:M78 216a:M78.69 ",
    "216b:M78.69.69 216c:M6c 216d:M63 216e:M64 216f:M6d 2170:M69 2171:M69.69 2172:M69.69.69 ",
    "2173:M69.76 2174:M76 2175:M76.69 2176:M76.69.69 2177:M76.69.69.69 2178:M69.78 2179:M78 ",
    "217a:M78.69 217b:M78.69.69 217c:M6c 217d:M63 217e:M64 217f:M6d 2180:V 2183:M2184 2184:V ",
    "2189:M30.2044.33 218a:V 218c:X 2190:V 222c:M222b.222b 222d:M222b.222b.222b 222e:V ",
    "222f:M222e.222e 2230:M222e.222e.222e 2231:V 2329:M3008 232a:M3009 232b:V 242a:X 2440:V ",
    "244b:X 2460:M31 2461:M32 2462:M33 2463:M34 2464:M35 2465:M36 2466:M37 2467:M38 2468:M39 ",
    "2469:M31.30 246a:M31.31 246b:M31.32 246c:M31.33 246d:M31.34 246e:M31.35 246f:M31.36 ",
    "2470:M31.37 2471:M31.38 2472:M31.39 2473:M32.30 2474:M28.31.29 2475:M28.32.29 ",
    "2476:M28.33.29 2477:M28.34.29 2478:M28.35.29 2479:M28.36.29 247a:M28.37.29 ",
    "247b:M28.38.29 247c:M28.39.29 247d:M28.31.30.29 247e:M28.31.31.29 247f:M28.31.32.29 ",
    "2480:M28.31.33.29 2481:M28.31.34.29 2482:M28.31.35.29 2483:M28.31.36.29 ",
    "2484:M28.31.37.29 2485:M28.31.38.29 2486:M28.31.39.29 2487:M28.32.30.29 2488:X ",
    "249c:M28.61.29 249d:M28.62.29 249e:M28.63.29 249f:M28.64.29 24a0:M28.65.29 ",
    "24a1:M28.66.29 24a2:M28.67.29 24a3:M28.68.29 24a4:M28.69.29 24a5:M28.6a.29 ",
    "24a6:M28.6b.29 24a7:M28.6c.29 24a8:M28.6d.29 24a9:M28.6e.29 24aa:M28.6f.29 ",
    "24ab:M28.70.29 24ac:M28.71.29 24ad:M28.72.29 24ae:M28.73.29 24af:M28.74.29 ",
    "24b0:M28.75.29 24b1:M28.76.29 24b2:M28.77.29 24b3:M28.78.29 24b4:M28.79.29 ",
    "24b5:M28.7a.29 24b6:M61 24b7:M62 24b8:M63 24b9:M64 24ba:M65 24bb:M66 24bc:M67 24bd:M68 ",
    "24be:M69 24bf:M6a 24c0:M6b 24c1:M6c 24c2:M6d 24c3:M6e 24c4:M6f 24c5:M70 24c6:M71 ",
    "24c7:M72 24c8:M73 24c9:M74 24ca:M75 24cb:M76 24cc:M77 24cd:M78 24ce:M79 24cf:M7a ",
    "24d0:M61 24d1:M62 24d2:M63 24d3:M64 24d4:M65 24d5:M66 24d6:M67 24d7:M68 24d8:M69 ",
    "24d9:M6a 24da:M6b 24db:M6c 24dc:M6d 24dd:M6e 24de:M6f 24df:M70 24e0:M71 24e1:M72 ",
    "24e2:M73 24e3:M74 24e4:M75 24e5:M76 24e6:M77 24e7:M78 24e8:M79 24e9:M7a 24ea:M30 24eb:V ",
    "2a0c:M222b.222b.222b.222b 2a0d:V 2a74:M3a.3a.3d 2a75:M3d.3d 2a76:M3d.3d.3d 2a77:V ",
    "2adc:M2add.338 2add:V 2b74:X 2b76:V 2c00:M2c30 2c01:M2c31 2c02:M2c32 2c03:M2c33 ",
    "2c04:M2c34 2c05:M2c35 2c06:M2c36 2c07:M2c37 2c08:M2c38 2c09:M2c39 2c0a:M2c3a 2c0b:M2c3b ",
    "2c0c:M2c3c 2c0d:M2c3d 2c0e:M2c3e 2c0f:M2c3f 2c10:M2c40 2c11:M2c41 2c12:M2c42 2c13:M2c43 ",
    "2c14:M2c44 2c15:M2c45 2c16:M2c46 2c17:M2c47 2c18:M2c48 2c19:M2c49 2c1a:M2c4a 2c1b:M2c4b ",
    "2c1c:M2c4c 2c1d:M2c4d 2c1e:M2c4e 2c1f:M2c4f 2c20:M2c50 2c21:M2c51 2c22:M2c52 2c23:M2c53 ",
    "2c24:M2c54 2c25:M2c55 2c26:M2c56 2c27:M2c57 2c28:M2c58 2c29:M2c59 2c2a:M2c5a 2c2b:M2c5b ",
    "2c2c:M2c5c 2c2d:M2c5d 2c2e:M2c5e 2c2f:M2c5f 2c30:V 2c60:M2c61 2c61:V 2c62:M26b ",
    "2c63:M1d7d 2c64:M27d 2c65:V 2c67:M2c68 2c68:V 2c69:M2c6a 2c6a:V 2c6b:M2c6c 2c6c:V ",
    "2c6d:M251 2c6e:M271 2c6f:M250 2c70:M252 2c71:V 2c72:M2c73 2c73:V 2c75:M2c76 2c76:V ",
    "2c7c:M6a 2c7d:M76 2c7e:M23f 2c7f:M240 2c80:M2c81 2c81:V 2c82:M2c83 2c83:V 2c84:M2c85 ",
    "2c85:V 2c86:M2c87 2c87:V 2c88:M2c89 2c89:V 2c8a:M2c8b 2c8b:V 2c8c:M2c8d 2c8d:V ",
    "2c8e:M2c8f 2c8f:V 2c90:M2c91 2c91:V 2c92:M2c93 2c93:V 2c94:M2c95 2c95:V 2c96:M2c97 ",
    "2c97:V 2c98:M2c99 2c99:V 2c9a:M2c9b 2c9b:V 2c9c:M2c9d 2c9d:V 2c9e:M2c9f 2c9f:V ",
    "2ca0:M2ca1 2ca1:V 2ca2:M2ca3 2ca3:V 2ca4:M2ca5 2ca5:V 2ca6:M2ca7 2ca7:V 2ca8:M2ca9 ",
    "2ca9:V 2caa:M2cab 2cab:V 2cac:M2cad 2cad:V 2cae:M2caf 2caf:V 2cb0:M2cb1 2cb1:V ",
    "2cb2:M2cb3 2cb3:V 2cb4:M2cb5 2cb5:V 2cb6:M2cb7 2cb7:V 2cb8:M2cb9 2cb9:V 2cba:M2cbb ",
    "2cbb:V 2cbc:M2cbd 2cbd:V 2cbe:M2cbf 2cbf:V 2cc0:M2cc1 2cc1:V 2cc2:M2cc3 2cc3:V ",
    "2cc4:M2cc5 2cc5:V 2cc6:M2cc7 2cc7:V 2cc8:M2cc9 2cc9:V 2cca:M2ccb 2ccb:V 2ccc:M2ccd ",
    "2ccd:V 2cce:M2ccf 2ccf:V 2cd0:M2cd1 2cd1:V 2cd2:M2cd3 2cd3:V 2cd4:M2cd5 2cd5:V ",
    "2cd6:M2cd7 2cd7:V 2cd8:M2cd9 2cd9:V 2cda:M2cdb 2cdb:V 2cdc:M2cdd 2cdd:V 2cde:M2cdf ",
    "2cdf:V 2ce0:M2ce1 2ce1:V 2ce2:M2ce3 2ce3:V 2ceb:M2cec 2cec:V 2ced:M2cee 2cee:V ",
    "2cf2:M2cf3 2cf3:V 2cf4:X 2cf9:V 2d26:X 2d27:V 2d28:X 2d2d:V 2d2e:X 2d30:V 2d68:X ",
    "2d6f:M2d61 2d70:V 2d71:X 2d7f:V 2d97:X 2da0:V 2da7:X 2da8:V 2daf:X 2db0:V 2db7:X 2db8:V ",
    "2dbf:X 2dc0:V 2dc7:X 2dc8:V 2dcf:X 2dd0:V 2dd7:X 2dd8:V 2ddf:X 2de0:V 2e5e:X 2e80:V ",
    "2e9a:X 2e9b:V 2e9f:M6bcd 2ea0:V 2ef3:M9f9f 2ef4:X 2f00:M4e00 2f01:M4e28 2f02:M4e36 ",
    "2f03:M4e3f 2f04:M4e59 2f05:M4e85 2f06:M4e8c 2f07:M4ea0 2f08:M4eba 2f09:M513f 2f0a:M5165 ",
    "2f0b:M516b 2f0c:M5182 2f0d:M5196 2f0e:M51ab 2f0f:M51e0 2f10:M51f5 2f11:M5200 2f12:M529b ",
    "2f13:M52f9 2f14:M5315 2f15:M531a 2f16:M5338 2f17:M5341 2f18:M535c 2f19:M5369 2f1a:M5382 ",
    "2f1b:M53b6 2f1c:M53c8 2f1d:M53e3 2f1e:M56d7 2f1f:M571f 2f20:M58eb 2f21:M5902 2f22:M590a ",
    "2f23:M5915 2f24:M5927 2f25:M5973 2f26:M5b50 2f27:M5b80 2f28:M5bf8 2f29:M5c0f 2f2a:M5c22 ",
    "2f2b:M5c38 2f2c:M5c6e 2f2d:M5c71 2f2e:M5ddb 2f2f:M5de5 2f30:M5df1 2f31:M5dfe 2f32:M5e72 ",
    "2f33:M5e7a 2f34:M5e7f 2f35:M5ef4 2f36:M5efe 2f37:M5f0b 2f38:M5f13 2f39:M5f50 2f3a:M5f61 ",
    "2f3b:M5f73 2f3c:M5fc3 2f3d:M6208 2f3e:M6236 2f3f:M624b 2f40:M652f 2f41:M6534 2f42:M6587 ",
    "2f43:M6597 2f44:M65a4 2f45:M65b9 2f46:M65e0 2f47:M65e5 2f48:M66f0 2f49:M6708 2f4a:M6728 ",
    "2f4b:M6b20 2f4c:M6b62 2f4d:M6b79 2f4e:M6bb3 2f4f:M6bcb 2f50:M6bd4 2f51:M6bdb 2f52:M6c0f ",
    "2f53:M6c14 2f54:M6c34 2f55:M706b 2f56:M722a 2f57:M7236 2f58:M723b 2f59:M723f 2f5a:M7247 ",
    "2f5b:M7259 2f5c:M725b 2f5d:M72ac 2f5e:M7384 2f5f:M7389 2f60:M74dc 2f61:M74e6 2f62:M7518 ",
    "2f63:M751f 2f64:M7528 2f65:M7530 2f66:M758b 2f67:M7592 2f68:M7676 2f69:M767d 2f6a:M76ae ",
    "2f6b:M76bf 2f6c:M76ee 2f6d:M77db 2f6e:M77e2 2f6f:M77f3 2f70:M793a 2f71:M79b8 2f72:M79be ",
    "2f73:M7a74 2f74:M7acb 2f75:M7af9 2f76:M7c73 2f77:M7cf8 2f78:M7f36 2f79:M7f51 2f7a:M7f8a ",
    "2f7b:M7fbd 2f7c:M8001 2f7d:M800c 2f7e:M8012 2f7f:M8033 2f80:M807f 2f81:M8089 2f82:M81e3 ",
    "2f83:M81ea 2f84:M81f3 2f85:M81fc 2f86:M820c 2f87:M821b 2f88:M821f 2f89:M826e 2f8a:M8272 ",
    "2f8b:M8278 2f8c:M864d 2f8d:M866b 2f8e:M8840 2f8f:M884c 2f90:M8863 2f91:M897e 2f92:M898b ",
    "2f93:M89d2 2f94:M8a00 2f95:M8c37 2f96:M8c46 2f97:M8c55 2f98:M8c78 2f99:M8c9d 2f9a:M8d64 ",
    "2f9b:M8d70 2f9c:M8db3 2f9d:M8eab 2f9e:M8eca 2f9f:M8f9b 2fa0:M8fb0 2fa1:M8fb5 2fa2:M9091 ",
    "2fa3:M9149 2fa4:M91c6 2fa5:M91cc 2fa6:M91d1 2fa7:M9577 2fa8:M9580 2fa9:M961c 2faa:M96b6 ",
    "2fab:M96b9 2fac:M96e8 2fad:M9751 2fae:M975e 2faf:M9762 2fb0:M9769 2fb1:M97cb 2fb2:M97ed ",
    "2fb3:M97f3 2fb4:M9801 2fb5:M98a8 2fb6:M98db 2fb7:M98df 2fb8:M9996 2fb9:M9999 2fba:M99ac ",
    "2fbb:M9aa8 2fbc:M9ad8 2fbd:M9adf 2fbe:M9b25 2fbf:M9b2f 2fc0:M9b32 2fc1:M9b3c 2fc2:M9b5a ",
    "2fc3:M9ce5 2fc4:M9e75 2fc5:M9e7f 2fc6:M9ea5 2fc7:M9ebb 2fc8:M9ec3 2fc9:M9ecd 2fca:M9ed1 ",
    "2fcb:M9ef9 2fcc:M9efd 2fcd:M9f0e 2fce:M9f13 2fcf:M9f20 2fd0:M9f3b 2fd1:M9f4a 2fd2:M9f52 ",
    "2fd3:M9f8d 2fd4:M9f9c 2fd5:M9fa0 2fd6:X 3000:M20 3001:V 3002:M2e 3003:V 3036:M3012 ",
    "3037:V 3038:M5341 3039:M5344 303a:M5345 303b:V 3040:X 3041:V 3097:X 3099:V 309b:M20.3099 ",
    "309c:M20.309a 309d:V 309f:M3088.308a 30a0:V 30ff:M30b3.30c8 3100:X 3105:V 3130:X ",
    "3131:M1100 3132:M1101 3133:M11aa 3134:M1102 3135:M11ac 3136:M11ad 3137:M1103 3138:M1104 ",
    "3139:M1105 313a:M11b0 313b:M11b1 313c:M11b2 313d:M11b3 313e:M11b4 313f:M11b5 3140:M111a ",
    "3141:M1106 3142:M1107 3143:M1108 3144:M1121 3145:M1109 3146:M110a 3147:M110b 3148:M110c ",
    "3149:M110d 314a:M110e 314b:M110f 314c:M1110 314d:M1111 314e:M1112 314f:M1161 3150:M1162 ",
    "3151:M1163 3152:M1164 3153:M1165 3154:M1166 3155:M1167 3156:M1168 3157:M1169 3158:M116a ",
    "3159:M116b 315a:M116c 315b:M116d 315c:M116e 315d:M116f 315e:M1170 315f:M1171 3160:M1172 ",
    "3161:M1173 3162:M1174 3163:M1175 3164:I 3165:M1114 3166:M1115 3167:M11c7 3168:M11c8 ",
    "3169:M11cc 316a:M11ce 316b:M11d3 316c:M11d7 316d:M11d9 316e:M111c 316f:M11dd 3170:M11df ",
    "3171:M111d 3172:M111e 3173:M1120 3174:M1122 3175:M1123 3176:M1127 3177:M1129 3178:M112b ",
    "3179:M112c 317a:M112d 317b:M112e 317c:M112f 317d:M1132 317e:M1136 317f:M1140 3180:M1147 ",
    "3181:M114c 3182:M11f1 3183:M11f2 3184:M1157 3185:M1158 3186:M1159 3187:M1184 3188:M1185 ",
    "3189:M1188 318a:M1191 318b:M1192 318c:M1194 318d:M119e 318e:M11a1 318f:X 3190:V ",
    "3192:M4e00 3193:M4e8c 3194:M4e09 3195:M56db 3196:M4e0a 3197:M4e2d 3198:M4e0b 3199:M7532 ",
    "319a:M4e59 319b:M4e19 319c:M4e01 319d:M5929 319e:M5730 319f:M4eba 31a0:V 31e6:X 31f0:V ",
    "3200:M28.1100.29 3201:M28.1102.29 3202:M28.1103.29 3203:M28.1105.29 3204:M28.1106.29 ",
    "3205:M28.1107.29 3206:M28.1109.29 3207:M28.110b.29 3208:M28.110c.29 3209:M28.110e.29 ",
    "320a:M28.110f.29 320b:M28.1110.29 320c:M28.1111.29 320d:M28.1112.29 320e:M28.ac00.29 ",
    "320f:M28.b098.29 3210:M28.b2e4.29 3211:M28.b77c.29 3212:M28.b9c8.29 3213:M28.bc14.29 ",
    "3214:M28.c0ac.29 3215:M28.c544.29 3216:M28.c790.29 3217:M28.cc28.29 3218:M28.ce74.29 ",
    "3219:M28.d0c0.29 321a:M28.d30c.29 321b:M28.d558.29 321c:M28.c8fc.29 ",
    "321d:M28.c624.c804.29 321e:M28.c624.d6c4.29 321f:X 3220:M28.4e00.29 3221:M28.4e8c.29 ",
    "3222:M28.4e09.29 3223:M28.56db.29 3224:M28.4e94.29 3225:M28.516d.29 3226:M28.4e03.29 ",
    "3227:M28.516b.29 3228:M28.4e5d.29 3229:M28.5341.29 322a:M28.6708.29 322b:M28.706b.29 ",
    "322c:M28.6c34.29 322d:M28.6728.29 322e:M28.91d1.29 322f:M28.571f.29 3230:M28.65e5.29 ",
    "3231:M28.682a.29 3232:M28.6709.29 3233:M28.793e.29 3234:M28.540d.29 3235:M28.7279.29 ",
    "3236:M28.8ca1.29 3237:M28.795d.29 3238:M28.52b4.29 3239:M28.4ee3.29 323a:M28.547c.29 ",
    "323b:M28.5b66.29 323c:M28.76e3.29 323d:M28.4f01.29 323e:M28.8cc7.29 323f:M28.5354.29 ",
    "3240:M28.796d.29 3241:M28.4f11.29 3242:M28.81ea.29 3243:M28.81f3.29 3244:M554f ",
    "3245:M5e7c 3246:M6587 3247:M7b8f 3248:V 3250:M70.74.65 3251:M32.31 3252:M32.32 ",
    "3253:M32.33 3254:M32.34 3255:M32.35 3256:M32.36 3257:M32.37 3258:M32.38 3259:M32.39 ",
    "325a:M33.30 325b:M33.31 325c:M33.32 325d:M33.33 325e:M33.34 325f:M33.35 3260:M1100 ",
    "3261:M1102 3262:M1103 3263:M1105 3264:M1106 3265:M1107 3266:M1109 3267:M110b 3268:M110c ",
    "3269:M110e 326a:M110f 326b:M1110 326c:M1111 326d:M1112 326e:Mac00 326f:Mb098 3270:Mb2e4 ",
    "3271:Mb77c 3272:Mb9c8 3273:Mbc14 3274:Mc0ac 3275:Mc544 3276:Mc790 3277:Mcc28 3278:Mce74 ",
    "3279:Md0c0 327a:Md30c 327b:Md558 327c:Mcc38.ace0 327d:Mc8fc.c758 327e:Mc6b0 327f:V ",
    "3280:M4e00 3281:M4e8c 3282:M4e09 3283:M56db 3284:M4e94 3285:M516d 3286:M4e03 3287:M516b ",
    "3288:M4e5d 3289:M5341 328a:M6708 328b:M706b 328c:M6c34 328d:M6728 328e:M91d1 328f:M571f ",
    "3290:M65e5 3291:M682a 3292:M6709 3293:M793e 3294:M540d 3295:M7279 3296:M8ca1 3297:M795d ",
    "3298:M52b4 3299:M79d8 329a:M7537 329b:M5973 329c:M9069 329d:M512a 329e:M5370 329f:M6ce8 ",
    "32a0:M9805 32a1:M4f11 32a2:M5199 32a3:M6b63 32a4:M4e0a 32a5:M4e2d 32a6:M4e0b 32a7:M5de6 ",
    "32a8:M53f3 32a9:M533b 32aa:M5b97 32ab:M5b66 32ac:M76e3 32ad:M4f01 32ae:M8cc7 32af:M5354 ",
    "32b0:M591c 32b1:M33.36 32b2:M33.37 32b3:M33.38 32b4:M33.39 32b5:M34.30 32b6:M34.31 ",
    "32b7:M34.32 32b8:M34.33 32b9:M34.34 32ba:M34.35 32bb:M34.36 32bc:M34.37 32bd:M34.38 ",
    "32be:M34.39 32bf:M35.30 32c0:M31.6708 32c1:M32.6708 32c2:M33.6708 32c3:M34.6708 ",
    "32c4:M35.6708 32c5:M36.6708 32c6:M37.6708 32c7:M38.6708 32c8:M39.6708 32c9:M31.30.6708 ",
    "32ca:M31.31.6708 32cb:M31.32.6708 32cc:M68.67 32cd:M65.72.67 32ce:M65.76 32cf:M6c.74.64 ",
    "32d0:M30a2 32d1:M30a4 32d2:M30a6 32d3:M30a8 32d4:M30aa 32d5:M30ab 32d6:M30ad 32d7:M30af ",
    "32d8:M30b1 32d9:M30b3 32da:M30b5 32db:M30b7 32dc:M30b9 32dd:M30bb 32de:M30bd 32df:M30bf ",
    "32e0:M30c1 32e1:M30c4 32e2:M30c6 32e3:M30c8 32e4:M30ca 32e5:M30cb 32e6:M30cc 32e7:M30cd ",
    "32e8:M30ce 32e9:M30cf 32ea:M30d2 32eb:M30d5 32ec:M30d8 32ed:M30db 32ee:M30de 32ef:M30df ",
    "32f0:M30e0 32f1:M30e1 32f2:M30e2 32f3:M30e4 32f4:M30e6 32f5:M30e8 32f6:M30e9 32f7:M30ea ",
    "32f8:M30eb 32f9:M30ec 32fa:M30ed 32fb:M30ef 32fc:M30f0 32fd:M30f1 32fe:M30f2 ",
    "32ff:M4ee4.548c 3300:M30a2.30d1.30fc.30c8 3301:M30a2.30eb.30d5.30a1 ",
    "3302:M30a2.30f3.30da.30a2 3303:M30a2.30fc.30eb 3304:M30a4.30cb.30f3.30b0 ",
    "3305:M30a4.30f3.30c1 3306:M30a6.30a9.30f3 3307:M30a8.30b9.30af.30fc.30c9 ",
    "3308:M30a8.30fc.30ab.30fc 3309:M30aa.30f3.30b9 330a:M30aa.30fc.30e0 330b:M30ab.30a4.30ea ",
    "330c:M30ab.30e9.30c3.30c8 330d:M30ab.30ed.30ea.30fc 330e:M30ac.30ed.30f3 ",
    "330f:M30ac.30f3.30de 3310:M30ae.30ac 3311:M30ae.30cb.30fc 3312:M30ad.30e5.30ea.30fc ",
    "3313:M30ae.30eb.30c0.30fc 3314:M30ad.30ed 3315:M30ad.30ed.30b0.30e9.30e0 ",
    "3316:M30ad.30ed.30e1.30fc.30c8.30eb 3317:M30ad.30ed.30ef.30c3.30c8 3318:M30b0.30e9.30e0 ",
    "3319:M30b0.30e9.30e0.30c8.30f3 331a:M30af.30eb.30bc.30a4.30ed 331b:M30af.30ed.30fc.30cd ",
    "331c:M30b1.30fc.30b9 331d:M30b3.30eb.30ca 331e:M30b3.30fc.30dd 331f:M30b5.30a4.30af.30eb ",
    "3320:M30b5.30f3.30c1.30fc.30e0 3321:M30b7.30ea.30f3.30b0 3322:M30bb.30f3.30c1 ",
    "3323:M30bb.30f3.30c8 3324:M30c0.30fc.30b9 3325:M30c7.30b7 3326:M30c9.30eb ",
    "3327:M30c8.30f3 3328:M30ca.30ce 3329:M30ce.30c3.30c8 332a:M30cf.30a4.30c4 ",
    "332b:M30d1.30fc.30bb.30f3.30c8 332c:M30d1.30fc.30c4 332d:M30d0.30fc.30ec.30eb ",
    "332e:M30d4.30a2.30b9.30c8.30eb 332f:M30d4.30af.30eb 3330:M30d4.30b3 3331:M30d3.30eb ",
    "3332:M30d5.30a1.30e9.30c3.30c9 3333:M30d5.30a3.30fc.30c8 3334:M30d6.30c3.30b7.30a7.30eb ",
    "3335:M30d5.30e9.30f3 3336:M30d8.30af.30bf.30fc.30eb 3337:M30da.30bd 3338:M30da.30cb.30d2 ",
    "3339:M30d8.30eb.30c4 333a:M30da.30f3.30b9 333b:M30da.30fc.30b8 333c:M30d9.30fc.30bf ",
    "333d:M30dd.30a4.30f3.30c8 333e:M30dc.30eb.30c8 333f:M30db.30f3 3340:M30dd.30f3.30c9 ",
    "3341:M30db.30fc.30eb 3342:M30db.30fc.30f3 3343:M30de.30a4.30af.30ed 3344:M30de.30a4.30eb ",
    "3345:M30de.30c3.30cf 3346:M30de.30eb.30af 3347:M30de.30f3.30b7.30e7.30f3 ",
    "3348:M30df.30af.30ed.30f3 3349:M30df.30ea 334a:M30df.30ea.30d0.30fc.30eb 334b:M30e1.30ac ",
    "334c:M30e1.30ac.30c8.30f3 334d:M30e1.30fc.30c8.30eb 334e:M30e4.30fc.30c9 ",
    "334f:M30e4.30fc.30eb 3350:M30e6.30a2.30f3 3351:M30ea.30c3.30c8.30eb 3352:M30ea.30e9 ",
    "3353:M30eb.30d4.30fc 3354:M30eb.30fc.30d6.30eb 3355:M30ec.30e0 ",
    "3356:M30ec.30f3.30c8.30b2.30f3 3357:M30ef.30c3.30c8 3358:M30.70b9 3359:M31.70b9 ",
    "335a:M32.70b9 335b:M33.70b9 335c:M34.70b9 335d:M35.70b9 335e:M36.70b9 335f:M37.70b9 ",
    "3360:M38.70b9 3361:M39.70b9 3362:M31.30.70b9 3363:M31.31.70b9 3364:M31.32.70b9 ",
    "3365:M31.33.70b9 3366:M31.34.70b9 3367:M31.35.70b9 3368:M31.36.70b9 3369:M31.37.70b9 ",
    "336a:M31.38.70b9 336b:M31.39.70b9 336c:M32.30.70b9 336d:M32.31.70b9 336e:M32.32.70b9 ",
    "336f:M32.33.70b9 3370:M32.34.70b9 3371:M68.70.61 3372:M64.61 3373:M61.75 3374:M62.61.72 ",
    "3375:M6f.76 3376:M70.63 3377:M64.6d 3378:M64.6d.32 3379:M64.6d.33 337a:M69.75 ",
    "337b:M5e73.6210 337c:M662d.548c 337d:M5927.6b63 337e:M660e.6cbb ",
    "337f:M682a.5f0f.4f1a.793e 3380:M70.61 3381:M6e.61 3382:M3bc.61 3383:M6d.61 3384:M6b.61 ",
    "3385:M6b.62 3386:M6d.62 3387:M67.62 3388:M63.61.6c 3389:M6b.63.61.6c 338a:M70.66 ",
    "338b:M6e.66 338c:M3bc.66 338d:M3bc.67 338e:M6d.67 338f:M6b.67 3390:M68.7a 3391:M6b.68.7a ",
    "3392:M6d.68.7a 3393:M67.68.7a 3394:M74.68.7a 3395:M3bc.6c 3396:M6d.6c 3397:M64.6c ",
    "3398:M6b.6c 3399:M66.6d 339a:M6e.6d 339b:M3bc.6d 339c:M6d.6d 339d:M63.6d 339e:M6b.6d ",
    "339f:M6d.6d.32 33a0:M63.6d.32 33a1:M6d.32 33a2:M6b.6d.32 33a3:M6d.6d.33 33a4:M63.6d.33 ",
    "33a5:M6d.33 33a6:M6b.6d.33 33a7:M6d.2215.73 33a8:M6d.2215.73.32 33a9:M70.61 ",
    "33aa:M6b.70.61 33ab:M6d.70.61 33ac:M67.70.61 33ad:M72.61.64 33ae:M72.61.64.2215.73 ",
    "33af:M72.61.64.2215.73.32 33b0:M70.73 33b1:M6e.73 33b2:M3bc.73 33b3:M6d.73 33b4:M70.76 ",
    "33b5:M6e.76 33b6:M3bc.76 33b7:M6d.76 33b8:M6b.76 33b9:M6d.76 33ba:M70.77 33bb:M6e.77 ",
    "33bc:M3bc.77 33bd:M6d.77 33be:M6b.77 33bf:M6d.77 33c0:M6b.3c9 33c1:M6d.3c9 33c2:X ",
    "33c3:M62.71 33c4:M63.63 33c5:M63.64 33c6:M63.2215.6b.67 33c7:X 33c8:M64.62 33c9:M67.79 ",
    "33ca:M68.61 33cb:M68.70 33cc:M69.6e 33cd:M6b.6b 33ce:M6b.6d 33cf:M6b.74 33d0:M6c.6d ",
    "33d1:M6c.6e 33d2:M6c.6f.67 33d3:M6c.78 33d4:M6d.62 33d5:M6d.69.6c 33d6:M6d.6f.6c ",
    "33d7:M70.68 33d8:X 33d9:M70.70.6d 33da:M70.72 33db:M73.72 33dc:M73.76 33dd:M77.62 ",
    "33de:M76.2215.6d 33df:M61.2215.6d 33e0:M31.65e5 33e1:M32.65e5 33e2:M33.65e5 ",
    "33e3:M34.65e5 33e4:M35.65e5 33e5:M36.65e5 33e6:M37.65e5 33e7:M38.65e5 33e8:M39.65e5 ",
    "33e9:M31.30.65e5 33ea:M31.31.65e5 33eb:M31.32.65e5 33ec:M31.33.65e5 33ed:M31.34.65e5 ",
    "33ee:M31.35.65e5 33ef:M31.36.65e5 33f0:M31.37.65e5 33f1:M31.38.65e5 33f2:M31.39.65e5 ",
    "33f3:M32.30.65e5 33f4:M32.31.65e5 33f5:M32.32.65e5 33f6:M32.33.65e5 33f7:M32.34.65e5 ",
    "33f8:M32.35.65e5 33f9:M32.36.65e5 33fa:M32.37.65e5 33fb:M32.38.65e5 33fc:M32.39.65e5 ",
    "33fd:M33.30.65e5 33fe:M33.31.65e5 33ff:M67.61.6c 3400:V a48d:X a490:V a4c7:X a4d0:V ",
    "a62c:X a640:Ma641 a641:V a642:Ma643 a643:V a644:Ma645 a645:V a646:Ma647 a647:V ",
    "a648:Ma649 a649:V a64a:Ma64b a64b:V a64c:Ma64d a64d:V a64e:Ma64f a64f:V a650:Ma651 ",
    "a651:V a652:Ma653 a653:V a654:Ma655 a655:V a656:Ma657 a657:V a658:Ma659 a659:V ",
    "a65a:Ma65b a65b:V a65c:Ma65d a65d:V a65e:Ma65f a65f:V a660:Ma661 a661:V a662:Ma663 ",
    "a663:V a664:Ma665 a665:V a666:Ma667 a667:V a668:Ma669 a669:V a66a:Ma66b a66b:V ",
    "a66c:Ma66d a66d:V a680:Ma681 a681:V a682:Ma683 a683:V a684:Ma685 a685:V a686:Ma687 ",
    "a687:V a688:Ma689 a689:V a68a:Ma68b a68b:V a68c:Ma68d a68d:V a68e:Ma68f a68f:V ",
    "a690:Ma691 a691:V a692:Ma693 a693:V a694:Ma695 a695:V a696:Ma697 a697:V a698:Ma699 ",
    "a699:V a69a:Ma69b a69b:V a69c:M44a a69d:M44c a69e:V a6f8:X a700:V a722:Ma723 a723:V ",
    "a724:Ma725 a725:V a726:Ma727 a727:V a728:Ma729 a729:V a72a:Ma72b a72b:V a72c:Ma72d ",
    "a72d:V a72e:Ma72f a72f:V a732:Ma733 a733:V a734:Ma735 a735:V a736:Ma737 a737:V ",
    "a738:Ma739 a739:V a73a:Ma73b a73b:V a73c:Ma73d a73d:V a73e:Ma73f a73f:V a740:Ma741 ",
    "a741:V a742:Ma743 a743:V a744:Ma745 a745:V a746:Ma747 a747:V a748:Ma749 a749:V ",
    "a74a:Ma74b a74b:V a74c:Ma74d a74d:V a74e:Ma74f a74f:V a750:Ma751 a751:V a752:Ma753 ",
    "a753:V a754:Ma755 a755:V a756:Ma757 a757:V a758:Ma759 a759:V a75a:Ma75b a75b:V ",
    "a75c:Ma75d a75d:V a75e:Ma75f a75f:V a760:Ma761 a761:V a762:Ma763 a763:V a764:Ma765 ",
    "a765:V a766:Ma767 a767:V a768:Ma769 a769:V a76a:Ma76b a76b:V a76c:Ma76d a76d:V ",
    "a76e:Ma76f a76f:V a770:Ma76f a771:V a779:Ma77a a77a:V a77b:Ma77c a77c:V a77d:M1d79 ",
    "a77e:Ma77f a77f:V a780:Ma781 a781:V a782:Ma783 a783:V a784:Ma785 a785:V a786:Ma787 ",
    "a787:V a78b:Ma78c a78c:V a78d:M265 a78e:V a790:Ma791 a791:V a792:Ma793 a793:V a796:Ma797 ",
    "a797:V a798:Ma799 a799:V a79a:Ma79b a79b:V a79c:Ma79d a79d:V a79e:Ma79f a79f:V ",
    "a7a0:Ma7a1 a7a1:V a7a2:Ma7a3 a7a3:V a7a4:Ma7a5 a7a5:V a7a6:Ma7a7 a7a7:V a7a8:Ma7a9 ",
    "a7a9:V a7aa:M266 a7ab:M25c a7ac:M261 a7ad:M26c a7ae:M26a a7af:V a7b0:M29e a7b1:M287 ",
    "a7b2:M29d a7b3:Mab53 a7b4:Ma7b5 a7b5:V a7b6:Ma7b7 a7b7:V a7b8:Ma7b9 a7b9:V a7ba:Ma7bb ",
    "a7bb:V a7bc:Ma7bd a7bd:V a7be:Ma7bf a7bf:V a7c0:Ma7c1 a7c1:V a7c2:Ma7c3 a7c3:V ",
    "a7c4:Ma794 a7c5:M282 a7c6:M1d8e a7c7:Ma7c8 a7c8:V a7c9:Ma7ca a7ca:V a7cb:M264 a7cc:Ma7cd ",
    "a7cd:V a7ce:Ma7cf a7cf:V a7d0:Ma7d1 a7d1:V a7d2:Ma7d3 a7d3:V a7d4:Ma7d5 a7d5:V ",
    "a7d6:Ma7d7 a7d7:V a7d8:Ma7d9 a7d9:V a7da:Ma7db a7db:V a7dc:M19b a7dd:X a7f1:M73 a7f2:M63 ",
    "a7f3:M66 a7f4:M71 a7f5:Ma7f6 a7f6:V a7f8:M127 a7f9:M153 a7fa:V a82d:X a830:V a83a:X ",
    "a840:V a878:X a880:V a8c6:X a8ce:V a8da:X a8e0:V a954:X a95f:V a97d:X a980:V a9ce:X ",
    "a9cf:V a9da:X a9de:V a9ff:X aa00:V aa37:X aa40:V aa4e:X aa50:V aa5a:X aa5c:V aac3:X ",
    "aadb:V aaf7:X ab01:V ab07:X ab09:V ab0f:X ab11:V ab17:X ab20:V ab27:X ab28:V ab2f:X ",
    "ab30:V ab5c:Ma727 ab5d:Mab37 ab5e:M26b ab5f:Mab52 ab60:V ab69:M28d ab6a:V ab6c:X ",
    "ab70:M13a0 ab71:M13a1 ab72:M13a2 ab73:M13a3 ab74:M13a4 ab75:M13a5 ab76:M13a6 ab77:M13a7 ",
    "ab78:M13a8 ab79:M13a9 ab7a:M13aa ab7b:M13ab ab7c:M13ac ab7d:M13ad ab7e:M13ae ab7f:M13af ",
    "ab80:M13b0 ab81:M13b1 ab82:M13b2 ab83:M13b3 ab84:M13b4 ab85:M13b5 ab86:M13b6 ab87:M13b7 ",
    "ab88:M13b8 ab89:M13b9 ab8a:M13ba ab8b:M13bb ab8c:M13bc ab8d:M13bd ab8e:M13be ab8f:M13bf ",
    "ab90:M13c0 ab91:M13c1 ab92:M13c2 ab93:M13c3 ab94:M13c4 ab95:M13c5 ab96:M13c6 ab97:M13c7 ",
    "ab98:M13c8 ab99:M13c9 ab9a:M13ca ab9b:M13cb ab9c:M13cc ab9d:M13cd ab9e:M13ce ab9f:M13cf ",
    "aba0:M13d0 aba1:M13d1 aba2:M13d2 aba3:M13d3 aba4:M13d4 aba5:M13d5 aba6:M13d6 aba7:M13d7 ",
    "aba8:M13d8 aba9:M13d9 abaa:M13da abab:M13db abac:M13dc abad:M13dd abae:M13de abaf:M13df ",
    "abb0:M13e0 abb1:M13e1 abb2:M13e2 abb3:M13e3 abb4:M13e4 abb5:M13e5 abb6:M13e6 abb7:M13e7 ",
    "abb8:M13e8 abb9:M13e9 abba:M13ea abbb:M13eb abbc:M13ec abbd:M13ed abbe:M13ee abbf:M13ef ",
    "abc0:V abee:X abf0:V abfa:X ac00:V d7a4:X d7b0:V d7c7:X d7cb:V d7fc:X f900:M8c48 ",
    "f901:M66f4 f902:M8eca f903:M8cc8 f904:M6ed1 f905:M4e32 f906:M53e5 f907:M9f9c f909:M5951 ",
    "f90a:M91d1 f90b:M5587 f90c:M5948 f90d:M61f6 f90e:M7669 f90f:M7f85 f910:M863f f911:M87ba ",
    "f912:M88f8 f913:M908f f914:M6a02 f915:M6d1b f916:M70d9 f917:M73de f918:M843d f919:M916a ",
    "f91a:M99f1 f91b:M4e82 f91c:M5375 f91d:M6b04 f91e:M721b f91f:M862d f920:M9e1e f921:M5d50 ",
    "f922:M6feb f923:M85cd f924:M8964 f925:M62c9 f926:M81d8 f927:M881f f928:M5eca f929:M6717 ",
    "f92a:M6d6a f92b:M72fc f92c:M90ce f92d:M4f86 f92e:M51b7 f92f:M52de f930:M64c4 f931:M6ad3 ",
    "f932:M7210 f933:M76e7 f934:M8001 f935:M8606 f936:M865c f937:M8def f938:M9732 f939:M9b6f ",
    "f93a:M9dfa f93b:M788c f93c:M797f f93d:M7da0 f93e:M83c9 f93f:M9304 f940:M9e7f f941:M8ad6 ",
    "f942:M58df f943:M5f04 f944:M7c60 f945:M807e f946:M7262 f947:M78ca f948:M8cc2 f949:M96f7 ",
    "f94a:M58d8 f94b:M5c62 f94c:M6a13 f94d:M6dda f94e:M6f0f f94f:M7d2f f950:M7e37 f951:M964b ",
    "f952:M52d2 f953:M808b f954:M51dc f955:M51cc f956:M7a1c f957:M7dbe f958:M83f1 f959:M9675 ",
    "f95a:M8b80 f95b:M62cf f95c:M6a02 f95d:M8afe f95e:M4e39 f95f:M5be7 f960:M6012 f961:M7387 ",
    "f962:M7570 f963:M5317 f964:M78fb f965:M4fbf f966:M5fa9 f967:M4e0d f968:M6ccc f969:M6578 ",
    "f96a:M7d22 f96b:M53c3 f96c:M585e f96d:M7701 f96e:M8449 f96f:M8aaa f970:M6bba f971:M8fb0 ",
    "f972:M6c88 f973:M62fe f974:M82e5 f975:M63a0 f976:M7565 f977:M4eae f978:M5169 f979:M51c9 ",
    "f97a:M6881 f97b:M7ce7 f97c:M826f f97d:M8ad2 f97e:M91cf f97f:M52f5 f980:M5442 f981:M5973 ",
    "f982:M5eec f983:M65c5 f984:M6ffe f985:M792a f986:M95ad f987:M9a6a f988:M9e97 f989:M9ece ",
    "f98a:M529b f98b:M66c6 f98c:M6b77 f98d:M8f62 f98e:M5e74 f98f:M6190 f990:M6200 f991:M649a ",
    "f992:M6f23 f993:M7149 f994:M7489 f995:M79ca f996:M7df4 f997:M806f f998:M8f26 f999:M84ee ",
    "f99a:M9023 f99b:M934a f99c:M5217 f99d:M52a3 f99e:M54bd f99f:M70c8 f9a0:M88c2 f9a1:M8aaa ",
    "f9a2:M5ec9 f9a3:M5ff5 f9a4:M637b f9a5:M6bae f9a6:M7c3e f9a7:M7375 f9a8:M4ee4 f9a9:M56f9 ",
    "f9aa:M5be7 f9ab:M5dba f9ac:M601c f9ad:M73b2 f9ae:M7469 f9af:M7f9a f9b0:M8046 f9b1:M9234 ",
    "f9b2:M96f6 f9b3:M9748 f9b4:M9818 f9b5:M4f8b f9b6:M79ae f9b7:M91b4 f9b8:M96b8 f9b9:M60e1 ",
    "f9ba:M4e86 f9bb:M50da f9bc:M5bee f9bd:M5c3f f9be:M6599 f9bf:M6a02 f9c0:M71ce f9c1:M7642 ",
    "f9c2:M84fc f9c3:M907c f9c4:M9f8d f9c5:M6688 f9c6:M962e f9c7:M5289 f9c8:M677b f9c9:M67f3 ",
    "f9ca:M6d41 f9cb:M6e9c f9cc:M7409 f9cd:M7559 f9ce:M786b f9cf:M7d10 f9d0:M985e f9d1:M516d ",
    "f9d2:M622e f9d3:M9678 f9d4:M502b f9d5:M5d19 f9d6:M6dea f9d7:M8f2a f9d8:M5f8b f9d9:M6144 ",
    "f9da:M6817 f9db:M7387 f9dc:M9686 f9dd:M5229 f9de:M540f f9df:M5c65 f9e0:M6613 f9e1:M674e ",
    "f9e2:M68a8 f9e3:M6ce5 f9e4:M7406 f9e5:M75e2 f9e6:M7f79 f9e7:M88cf f9e8:M88e1 f9e9:M91cc ",
    "f9ea:M96e2 f9eb:M533f f9ec:M6eba f9ed:M541d f9ee:M71d0 f9ef:M7498 f9f0:M85fa f9f1:M96a3 ",
    "f9f2:M9c57 f9f3:M9e9f f9f4:M6797 f9f5:M6dcb f9f6:M81e8 f9f7:M7acb f9f8:M7b20 f9f9:M7c92 ",
    "f9fa:M72c0 f9fb:M7099 f9fc:M8b58 f9fd:M4ec0 f9fe:M8336 f9ff:M523a fa00:M5207 fa01:M5ea6 ",
    "fa02:M62d3 fa03:M7cd6 fa04:M5b85 fa05:M6d1e fa06:M66b4 fa07:M8f3b fa08:M884c fa09:M964d ",
    "fa0a:M898b fa0b:M5ed3 fa0c:M5140 fa0d:M55c0 fa0e:V fa10:M585a fa11:V fa12:M6674 fa13:V ",
    "fa15:M51de fa16:M732a fa17:M76ca fa18:M793c fa19:M795e fa1a:M7965 fa1b:M798f fa1c:M9756 ",
    "fa1d:M7cbe fa1e:M7fbd fa1f:V fa20:M8612 fa21:V fa22:M8af8 fa23:V fa25:M9038 fa26:M90fd ",
    "fa27:V fa2a:M98ef fa2b:M98fc fa2c:M9928 fa2d:M9db4 fa2e:M90de fa2f:M96b7 fa30:M4fae ",
    "fa31:M50e7 fa32:M514d fa33:M52c9 fa34:M52e4 fa35:M5351 fa36:M559d fa37:M5606 fa38:M5668 ",
    "fa39:M5840 fa3a:M58a8 fa3b:M5c64 fa3c:M5c6e fa3d:M6094 fa3e:M6168 fa3f:M618e fa40:M61f2 ",
    "fa41:M654f fa42:M65e2 fa43:M6691 fa44:M6885 fa45:M6d77 fa46:M6e1a fa47:M6f22 fa48:M716e ",
    "fa49:M722b fa4a:M7422 fa4b:M7891 fa4c:M793e fa4d:M7949 fa4e:M7948 fa4f:M7950 fa50:M7956 ",
    "fa51:M795d fa52:M798d fa53:M798e fa54:M7a40 fa55:M7a81 fa56:M7bc0 fa57:M7df4 fa58:M7e09 ",
    "fa59:M7e41 fa5a:M7f72 fa5b:M8005 fa5c:M81ed fa5d:M8279 fa5f:M8457 fa60:M8910 fa61:M8996 ",
    "fa62:M8b01 fa63:M8b39 fa64:M8cd3 fa65:M8d08 fa66:M8fb6 fa67:M9038 fa68:M96e3 fa69:M97ff ",
    "fa6a:M983b fa6b:M6075 fa6c:M242ee fa6d:M8218 fa6e:X fa70:M4e26 fa71:M51b5 fa72:M5168 ",
    "fa73:M4f80 fa74:M5145 fa75:M5180 fa76:M52c7 fa77:M52fa fa78:M559d fa79:M5555 fa7a:M5599 ",
    "fa7b:M55e2 fa7c:M585a fa7d:M58b3 fa7e:M5944 fa7f:M5954 fa80:M5a62 fa81:M5b28 fa82:M5ed2 ",
    "fa83:M5ed9 fa84:M5f69 fa85:M5fad fa86:M60d8 fa87:M614e fa88:M6108 fa89:M618e fa8a:M6160 ",
    "fa8b:M61f2 fa8c:M6234 fa8d:M63c4 fa8e:M641c fa8f:M6452 fa90:M6556 fa91:M6674 fa92:M6717 ",
    "fa93:M671b fa94:M6756 fa95:M6b79 fa96:M6bba fa97:M6d41 fa98:M6edb fa99:M6ecb fa9a:M6f22 ",
    "fa9b:M701e fa9c:M716e fa9d:M77a7 fa9e:M7235 fa9f:M72af faa0:M732a faa1:M7471 faa2:M7506 ",
    "faa3:M753b faa4:M761d faa5:M761f faa6:M76ca faa7:M76db faa8:M76f4 faa9:M774a faaa:M7740 ",
    "faab:M78cc faac:M7ab1 faad:M7bc0 faae:M7c7b faaf:M7d5b fab0:M7df4 fab1:M7f3e fab2:M8005 ",
    "fab3:M8352 fab4:M83ef fab5:M8779 fab6:M8941 fab7:M8986 fab8:M8996 fab9:M8abf faba:M8af8 ",
    "fabb:M8acb fabc:M8b01 fabd:M8afe fabe:M8aed fabf:M8b39 fac0:M8b8a fac1:M8d08 fac2:M8f38 ",
    "fac3:M9072 fac4:M9199 fac5:M9276 fac6:M967c fac7:M96e3 fac8:M9756 fac9:M97db faca:M97ff ",
    "facb:M980b facc:M983b facd:M9b12 face:M9f9c facf:M2284a fad0:M22844 fad1:M233d5 ",
    "fad2:M3b9d fad3:M4018 fad4:M4039 fad5:M25249 fad6:M25cd0 fad7:M27ed3 fad8:M9f43 ",
    "fad9:M9f8e fada:X fb00:M66.66 fb01:M66.69 fb02:M66.6c fb03:M66.66.69 fb04:M66.66.6c ",
    "fb05:M73.74 fb07:X fb13:M574.576 fb14:M574.565 fb15:M574.56b fb16:M57e.576 fb17:M574.56d ",
    "fb18:X fb1d:M5d9.5b4 fb1e:V fb1f:M5f2.5b7 fb20:M5e2 fb21:M5d0 fb22:M5d3 fb23:M5d4 ",
    "fb24:M5db fb25:M5dc fb26:M5dd fb27:M5e8 fb28:M5ea fb29:M2b fb2a:M5e9.5c1 fb2b:M5e9.5c2 ",
    "fb2c:M5e9.5bc.5c1 fb2d:M5e9.5bc.5c2 fb2e:M5d0.5b7 fb2f:M5d0.5b8 fb30:M5d0.5bc ",
    "fb31:M5d1.5bc fb32:M5d2.5bc fb33:M5d3.5bc fb34:M5d4.5bc fb35:M5d5.5bc fb36:M5d6.5bc ",
    "fb37:X fb38:M5d8.5bc fb39:M5d9.5bc fb3a:M5da.5bc fb3b:M5db.5bc fb3c:M5dc.5bc fb3d:X ",
    "fb3e:M5de.5bc fb3f:X fb40:M5e0.5bc fb41:M5e1.5bc fb42:X fb43:M5e3.5bc fb44:M5e4.5bc ",
    "fb45:X fb46:M5e6.5bc fb47:M5e7.5bc fb48:M5e8.5bc fb49:M5e9.5bc fb4a:M5ea.5bc ",
    "fb4b:M5d5.5b9 fb4c:M5d1.5bf fb4d:M5db.5bf fb4e:M5e4.5bf fb4f:M5d0.5dc fb50:M671 ",
    "fb52:M67b fb56:M67e fb5a:M680 fb5e:M67a fb62:M67f fb66:M679 fb6a:M6a4 fb6e:M6a6 ",
    "fb72:M684 fb76:M683 fb7a:M686 fb7e:M687 fb82:M68d fb84:M68c fb86:M68e fb88:M688 ",
    "fb8a:M698 fb8c:M691 fb8e:M6a9 fb92:M6af fb96:M6b3 fb9a:M6b1 fb9e:M6ba fba0:M6bb ",
    "fba4:M6c0 fba6:M6c1 fbaa:M6be fbae:M6d2 fbb0:M6d3 fbb2:V fbd3:M6ad fbd7:M6c7 fbd9:M6c6 ",
    "fbdb:M6c8 fbdd:M6c7.674 fbde:M6cb fbe0:M6c5 fbe2:M6c9 fbe4:M6d0 fbe8:M649 fbea:M626.627 ",
    "fbec:M626.6d5 fbee:M626.648 fbf0:M626.6c7 fbf2:M626.6c6 fbf4:M626.6c8 fbf6:M626.6d0 ",
    "fbf9:M626.649 fbfc:M6cc fc00:M626.62c fc01:M626.62d fc02:M626.645 fc03:M626.649 ",
    "fc04:M626.64a fc05:M628.62c fc06:M628.62d fc07:M628.62e fc08:M628.645 fc09:M628.649 ",
    "fc0a:M628.64a fc0b:M62a.62c fc0c:M62a.62d fc0d:M62a.62e fc0e:M62a.645 fc0f:M62a.649 ",
    "fc10:M62a.64a fc11:M62b.62c fc12:M62b.645 fc13:M62b.649 fc14:M62b.64a fc15:M62c.62d ",
    "fc16:M62c.645 fc17:M62d.62c fc18:M62d.645 fc19:M62e.62c fc1a:M62e.62d fc1b:M62e.645 ",
    "fc1c:M633.62c fc1d:M633.62d fc1e:M633.62e fc1f:M633.645 fc20:M635.62d fc21:M635.645 ",
    "fc22:M636.62c fc23:M636.62d fc24:M636.62e fc25:M636.645 fc26:M637.62d fc27:M637.645 ",
    "fc28:M638.645 fc29:M639.62c fc2a:M639.645 fc2b:M63a.62c fc2c:M63a.645 fc2d:M641.62c ",
    "fc2e:M641.62d fc2f:M641.62e fc30:M641.645 fc31:M641.649 fc32:M641.64a fc33:M642.62d ",
    "fc34:M642.645 fc35:M642.649 fc36:M642.64a fc37:M643.627 fc38:M643.62c fc39:M643.62d ",
    "fc3a:M643.62e fc3b:M643.644 fc3c:M643.645 fc3d:M643.649 fc3e:M643.64a fc3f:M644.62c ",
    "fc40:M644.62d fc41:M644.62e fc42:M644.645 fc43:M644.649 fc44:M644.64a fc45:M645.62c ",
    "fc46:M645.62d fc47:M645.62e fc48:M645.645 fc49:M645.649 fc4a:M645.64a fc4b:M646.62c ",
    "fc4c:M646.62d fc4d:M646.62e fc4e:M646.645 fc4f:M646.649 fc50:M646.64a fc51:M647.62c ",
    "fc52:M647.645 fc53:M647.649 fc54:M647.64a fc55:M64a.62c fc56:M64a.62d fc57:M64a.62e ",
    "fc58:M64a.645 fc59:M64a.649 fc5a:M64a.64a fc5b:M630.670 fc5c:M631.670 fc5d:M649.670 ",
    "fc5e:M20.64c.651 fc5f:M20.64d.651 fc60:M20.64e.651 fc61:M20.64f.651 fc62:M20.650.651 ",
    "fc63:M20.651.670 fc64:M626.631 fc65:M626.632 fc66:M626.645 fc67:M626.646 fc68:M626.649 ",
    "fc69:M626.64a fc6a:M628.631 fc6b:M628.632 fc6c:M628.645 fc6d:M628.646 fc6e:M628.649 ",
    "fc6f:M628.64a fc70:M62a.631 fc71:M62a.632 fc72:M62a.645 fc73:M62a.646 fc74:M62a.649 ",
    "fc75:M62a.64a fc76:M62b.631 fc77:M62b.632 fc78:M62b.645 fc79:M62b.646 fc7a:M62b.649 ",
    "fc7b:M62b.64a fc7c:M641.649 fc7d:M641.64a fc7e:M642.649 fc7f:M642.64a fc80:M643.627 ",
    "fc81:M643.644 fc82:M643.645 fc83:M643.649 fc84:M643.64a fc85:M644.645 fc86:M644.649 ",
    "fc87:M644.64a fc88:M645.627 fc89:M645.645 fc8a:M646.631 fc8b:M646.632 fc8c:M646.645 ",
    "fc8d:M646.646 fc8e:M646.649 fc8f:M646.64a fc90:M649.670 fc91:M64a.631 fc92:M64a.632 ",
    "fc93:M64a.645 fc94:M64a.646 fc95:M64a.649 fc96:M64a.64a fc97:M626.62c fc98:M626.62d ",
    "fc99:M626.62e fc9a:M626.645 fc9b:M626.647 fc9c:M628.62c fc9d:M628.62d fc9e:M628.62e ",
    "fc9f:M628.645 fca0:M628.647 fca1:M62a.62c fca2:M62a.62d fca3:M62a.62e fca4:M62a.645 ",
    "fca5:M62a.647 fca6:M62b.645 fca7:M62c.62d fca8:M62c.645 fca9:M62d.62c fcaa:M62d.645 ",
    "fcab:M62e.62c fcac:M62e.645 fcad:M633.62c fcae:M633.62d fcaf:M633.62e fcb0:M633.645 ",
    "fcb1:M635.62d fcb2:M635.62e fcb3:M635.645 fcb4:M636.62c fcb5:M636.62d fcb6:M636.62e ",
    "fcb7:M636.645 fcb8:M637.62d fcb9:M638.645 fcba:M639.62c fcbb:M639.645 fcbc:M63a.62c ",
    "fcbd:M63a.645 fcbe:M641.62c fcbf:M641.62d fcc0:M641.62e fcc1:M641.645 fcc2:M642.62d ",
    "fcc3:M642.645 fcc4:M643.62c fcc5:M643.62d fcc6:M643.62e fcc7:M643.644 fcc8:M643.645 ",
    "fcc9:M644.62c fcca:M644.62d fccb:M644.62e fccc:M644.645 fccd:M644.647 fcce:M645.62c ",
    "fccf:M645.62d fcd0:M645.62e fcd1:M645.645 fcd2:M646.62c fcd3:M646.62d fcd4:M646.62e ",
    "fcd5:M646.645 fcd6:M646.647 fcd7:M647.62c fcd8:M647.645 fcd9:M647.670 fcda:M64a.62c ",
    "fcdb:M64a.62d fcdc:M64a.62e fcdd:M64a.645 fcde:M64a.647 fcdf:M626.645 fce0:M626.647 ",
    "fce1:M628.645 fce2:M628.647 fce3:M62a.645 fce4:M62a.647 fce5:M62b.645 fce6:M62b.647 ",
    "fce7:M633.645 fce8:M633.647 fce9:M634.645 fcea:M634.647 fceb:M643.644 fcec:M643.645 ",
    "fced:M644.645 fcee:M646.645 fcef:M646.647 fcf0:M64a.645 fcf1:M64a.647 fcf2:M640.64e.651 ",
    "fcf3:M640.64f.651 fcf4:M640.650.651 fcf5:M637.649 fcf6:M637.64a fcf7:M639.649 ",
    "fcf8:M639.64a fcf9:M63a.649 fcfa:M63a.64a fcfb:M633.649 fcfc:M633.64a fcfd:M634.649 ",
    "fcfe:M634.64a fcff:M62d.649 fd00:M62d.64a fd01:M62c.649 fd02:M62c.64a fd03:M62e.649 ",
    "fd04:M62e.64a fd05:M635.649 fd06:M635.64a fd07:M636.649 fd08:M636.64a fd09:M634.62c ",
    "fd0a:M634.62d fd0b:M634.62e fd0c:M634.645 fd0d:M634.631 fd0e:M633.631 fd0f:M635.631 ",
    "fd10:M636.631 fd11:M637.649 fd12:M637.64a fd13:M639.649 fd14:M639.64a fd15:M63a.649 ",
    "fd16:M63a.64a fd17:M633.649 fd18:M633.64a fd19:M634.649 fd1a:M634.64a fd1b:M62d.649 ",
    "fd1c:M62d.64a fd1d:M62c.649 fd1e:M62c.64a fd1f:M62e.649 fd20:M62e.64a fd21:M635.649 ",
    "fd22:M635.64a fd23:M636.649 fd24:M636.64a fd25:M634.62c fd26:M634.62d fd27:M634.62e ",
    "fd28:M634.645 fd29:M634.631 fd2a:M633.631 fd2b:M635.631 fd2c:M636.631 fd2d:M634.62c ",
    "fd2e:M634.62d fd2f:M634.62e fd30:M634.645 fd31:M633.647 fd32:M634.647 fd33:M637.645 ",
    "fd34:M633.62c fd35:M633.62d fd36:M633.62e fd37:M634.62c fd38:M634.62d fd39:M634.62e ",
    "fd3a:M637.645 fd3b:M638.645 fd3c:M627.64b fd3e:V fd50:M62a.62c.645 fd51:M62a.62d.62c ",
    "fd53:M62a.62d.645 fd54:M62a.62e.645 fd55:M62a.645.62c fd56:M62a.645.62d ",
    "fd57:M62a.645.62e fd58:M62c.645.62d fd5a:M62d.645.64a fd5b:M62d.645.649 ",
    "fd5c:M633.62d.62c fd5d:M633.62c.62d fd5e:M633.62c.649 fd5f:M633.645.62d ",
    "fd61:M633.645.62c fd62:M633.645.645 fd64:M635.62d.62d fd66:M635.645.645 ",
    "fd67:M634.62d.645 fd69:M634.62c.64a fd6a:M634.645.62e fd6c:M634.645.645 ",
    "fd6e:M636.62d.649 fd6f:M636.62e.645 fd71:M637.645.62d fd73:M637.645.645 ",
    "fd74:M637.645.64a fd75:M639.62c.645 fd76:M639.645.645 fd78:M639.645.649 ",
    "fd79:M63a.645.645 fd7a:M63a.645.64a fd7b:M63a.645.649 fd7c:M641.62e.645 ",
    "fd7e:M642.645.62d fd7f:M642.645.645 fd80:M644.62d.645 fd81:M644.62d.64a ",
    "fd82:M644.62d.649 fd83:M644.62c.62c fd85:M644.62e.645 fd87:M644.645.62d ",
    "fd89:M645.62d.62c fd8a:M645.62d.645 fd8b:M645.62d.64a fd8c:M645.62c.62d ",
    "fd8d:M645.62c.645 fd8e:M645.62e.62c fd8f:M645.62e.645 fd90:V fd92:M645.62c.62e ",
    "fd93:M647.645.62c fd94:M647.645.645 fd95:M646.62d.645 fd96:M646.62d.649 ",
    "fd97:M646.62c.645 fd99:M646.62c.649 fd9a:M646.645.64a fd9b:M646.645.649 ",
    "fd9c:M64a.645.645 fd9e:M628.62e.64a fd9f:M62a.62c.64a fda0:M62a.62c.649 ",
    "fda1:M62a.62e.64a fda2:M62a.62e.649 fda3:M62a.645.64a fda4:M62a.645.649 ",
    "fda5:M62c.645.64a fda6:M62c.62d.649 fda7:M62c.645.649 fda8:M633.62e.649 ",
    "fda9:M635.62d.64a fdaa:M634.62d.64a fdab:M636.62d.64a fdac:M644.62c.64a ",
    "fdad:M644.645.64a fdae:M64a.62d.64a fdaf:M64a.62c.64a fdb0:M64a.645.64a ",
    "fdb1:M645.645.64a fdb2:M642.645.64a fdb3:M646.62d.64a fdb4:M642.645.62d ",
    "fdb5:M644.62d.645 fdb6:M639.645.64a fdb7:M643.645.64a fdb8:M646.62c.62d ",
    "fdb9:M645.62e.64a fdba:M644.62c.645 fdbb:M643.645.645 fdbc:M644.62c.645 ",
    "fdbd:M646.62c.62d fdbe:M62c.62d.64a fdbf:M62d.62c.64a fdc0:M645.62c.64a ",
    "fdc1:M641.645.64a fdc2:M628.62d.64a fdc3:M643.645.645 fdc4:M639.62c.645 ",
    "fdc5:M635.645.645 fdc6:M633.62e.64a fdc7:M646.62c.64a fdc8:V fdd0:X fdf0:M635.644.6d2 ",
    "fdf1:M642.644.6d2 fdf2:M627.644.644.647 fdf3:M627.643.628.631 fdf4:M645.62d.645.62f ",
    "fdf5:M635.644.639.645 fdf6:M631.633.648.644 fdf7:M639.644.64a.647 fdf8:M648.633.644.645 ",
    "fdf9:M635.644.649 ",
    "fdfa:M635.644.649.20.627.644.644.647.20.639.644.64a.647.20.648.633.644.645 ",
    "fdfb:M62c.644.20.62c.644.627.644.647 fdfc:M631.6cc.627.644 fdfd:V fe00:I fe10:M2c ",
    "fe11:M3001 fe12:X fe13:M3a fe14:M3b fe15:M21 fe16:M3f fe17:M3016 fe18:M3017 fe19:X ",
    "fe20:V fe30:X fe31:M2014 fe32:M2013 fe33:M5f fe35:M28 fe36:M29 fe37:M7b fe38:M7d ",
    "fe39:M3014 fe3a:M3015 fe3b:M3010 fe3c:M3011 fe3d:M300a fe3e:M300b fe3f:M3008 fe40:M3009 ",
    "fe41:M300c fe42:M300d fe43:M300e fe44:M300f fe45:V fe47:M5b fe48:M5d fe49:M20.305 ",
    "fe4d:M5f fe50:M2c fe51:M3001 fe52:X fe54:M3b fe55:M3a fe56:M3f fe57:M21 fe58:M2014 ",
    "fe59:M28 fe5a:M29 fe5b:M7b fe5c:M7d fe5d:M3014 fe5e:M3015 fe5f:M23 fe60:M26 fe61:M2a ",
    "fe62:M2b fe63:M2d fe64:M3c fe65:M3e fe66:M3d fe67:X fe68:M5c fe69:M24 fe6a:M25 fe6b:M40 ",
    "fe6c:X fe70:M20.64b fe71:M640.64b fe72:M20.64c fe73:V fe74:M20.64d fe75:X fe76:M20.64e ",
    "fe77:M640.64e fe78:M20.64f fe79:M640.64f fe7a:M20.650 fe7b:M640.650 fe7c:M20.651 ",
    "fe7d:M640.651 fe7e:M20.652 fe7f:M640.652 fe80:M621 fe81:M622 fe83:M623 fe85:M624 ",
    "fe87:M625 fe89:M626 fe8d:M627 fe8f:M628 fe93:M629 fe95:M62a fe99:M62b fe9d:M62c ",
    "fea1:M62d fea5:M62e fea9:M62f feab:M630 fead:M631 feaf:M632 feb1:M633 feb5:M634 ",
    "feb9:M635 febd:M636 fec1:M637 fec5:M638 fec9:M639 fecd:M63a fed1:M641 fed5:M642 ",
    "fed9:M643 fedd:M644 fee1:M645 fee5:M646 fee9:M647 feed:M648 feef:M649 fef1:M64a ",
    "fef5:M644.622 fef7:M644.623 fef9:M644.625 fefb:M644.627 fefd:X feff:I ff00:X ff01:M21 ",
    "ff02:M22 ff03:M23 ff04:M24 ff05:M25 ff06:M26 ff07:M27 ff08:M28 ff09:M29 ff0a:M2a ",
    "ff0b:M2b ff0c:M2c ff0d:M2d ff0e:M2e ff0f:M2f ff10:M30 ff11:M31 ff12:M32 ff13:M33 ",
    "ff14:M34 ff15:M35 ff16:M36 ff17:M37 ff18:M38 ff19:M39 ff1a:M3a ff1b:M3b ff1c:M3c ",
    "ff1d:M3d ff1e:M3e ff1f:M3f ff20:M40 ff21:M61 ff22:M62 ff23:M63 ff24:M64 ff25:M65 ",
    "ff26:M66 ff27:M67 ff28:M68 ff29:M69 ff2a:M6a ff2b:M6b ff2c:M6c ff2d:M6d ff2e:M6e ",
    "ff2f:M6f ff30:M70 ff31:M71 ff32:M72 ff33:M73 ff34:M74 ff35:M75 ff36:M76 ff37:M77 ",
    "ff38:M78 ff39:M79 ff3a:M7a ff3b:M5b ff3c:M5c ff3d:M5d ff3e:M5e ff3f:M5f ff40:M60 ",
    "ff41:M61 ff42:M62 ff43:M63 ff44:M64 ff45:M65 ff46:M66 ff47:M67 ff48:M68 ff49:M69 ",
    "ff4a:M6a ff4b:M6b ff4c:M6c ff4d:M6d ff4e:M6e ff4f:M6f ff50:M70 ff51:M71 ff52:M72 ",
    "ff53:M73 ff54:M74 ff55:M75 ff56:M76 ff57:M77 ff58:M78 ff59:M79 ff5a:M7a ff5b:M7b ",
    "ff5c:M7c ff5d:M7d ff5e:M7e ff5f:M2985 ff60:M2986 ff61:M2e ff62:M300c ff63:M300d ",
    "ff64:M3001 ff65:M30fb ff66:M30f2 ff67:M30a1 ff68:M30a3 ff69:M30a5 ff6a:M30a7 ff6b:M30a9 ",
    "ff6c:M30e3 ff6d:M30e5 ff6e:M30e7 ff6f:M30c3 ff70:M30fc ff71:M30a2 ff72:M30a4 ff73:M30a6 ",
    "ff74:M30a8 ff75:M30aa ff76:M30ab ff77:M30ad ff78:M30af ff79:M30b1 ff7a:M30b3 ff7b:M30b5 ",
    "ff7c:M30b7 ff7d:M30b9 ff7e:M30bb ff7f:M30bd ff80:M30bf ff81:M30c1 ff82:M30c4 ff83:M30c6 ",
    "ff84:M30c8 ff85:M30ca ff86:M30cb ff87:M30cc ff88:M30cd ff89:M30ce ff8a:M30cf ff8b:M30d2 ",
    "ff8c:M30d5 ff8d:M30d8 ff8e:M30db ff8f:M30de ff90:M30df ff91:M30e0 ff92:M30e1 ff93:M30e2 ",
    "ff94:M30e4 ff95:M30e6 ff96:M30e8 ff97:M30e9 ff98:M30ea ff99:M30eb ff9a:M30ec ff9b:M30ed ",
    "ff9c:M30ef ff9d:M30f3 ff9e:M3099 ff9f:M309a ffa0:I ffa1:M1100 ffa2:M1101 ffa3:M11aa ",
    "ffa4:M1102 ffa5:M11ac ffa6:M11ad ffa7:M1103 ffa8:M1104 ffa9:M1105 ffaa:M11b0 ffab:M11b1 ",
    "ffac:M11b2 ffad:M11b3 ffae:M11b4 ffaf:M11b5 ffb0:M111a ffb1:M1106 ffb2:M1107 ffb3:M1108 ",
    "ffb4:M1121 ffb5:M1109 ffb6:M110a ffb7:M110b ffb8:M110c ffb9:M110d ffba:M110e ffbb:M110f ",
    "ffbc:M1110 ffbd:M1111 ffbe:M1112 ffbf:X ffc2:M1161 ffc3:M1162 ffc4:M1163 ffc5:M1164 ",
    "ffc6:M1165 ffc7:M1166 ffc8:X ffca:M1167 ffcb:M1168 ffcc:M1169 ffcd:M116a ffce:M116b ",
    "ffcf:M116c ffd0:X ffd2:M116d ffd3:M116e ffd4:M116f ffd5:M1170 ffd6:M1171 ffd7:M1172 ",
    "ffd8:X ffda:M1173 ffdb:M1174 ffdc:M1175 ffdd:X ffe0:Ma2 ffe1:Ma3 ffe2:Mac ffe3:M20.304 ",
    "ffe4:Ma6 ffe5:Ma5 ffe6:M20a9 ffe7:X ffe8:M2502 ffe9:M2190 ffea:M2191 ffeb:M2192 ",
    "ffec:M2193 ffed:M25a0 ffee:M25cb ffef:X 10000:V 1000c:X 1000d:V 10027:X 10028:V 1003b:X ",
    "1003c:V 1003e:X 1003f:V 1004e:X 10050:V 1005e:X 10080:V 100fb:X 10100:V 10103:X 10107:V ",
    "10134:X 10137:V 1018f:X 10190:V 1019d:X 101a0:V 101a1:X 101d0:V 101fe:X 10280:V 1029d:X ",
    "102a0:V 102d1:X 102e0:V 102fc:X 10300:V 10324:X 1032d:V 1034b:X 10350:V 1037b:X 10380:V ",
    "1039e:X 1039f:V 103c4:X 103c8:V 103d6:X 10400:M10428 10401:M10429 10402:M1042a ",
    "10403:M1042b 10404:M1042c 10405:M1042d 10406:M1042e 10407:M1042f 10408:M10430 ",
    "10409:M10431 1040a:M10432 1040b:M10433 1040c:M10434 1040d:M10435 1040e:M10436 ",
    "1040f:M10437 10410:M10438 10411:M10439 10412:M1043a 10413:M1043b 10414:M1043c ",
    "10415:M1043d 10416:M1043e 10417:M1043f 10418:M10440 10419:M10441 1041a:M10442 ",
    "1041b:M10443 1041c:M10444 1041d:M10445 1041e:M10446 1041f:M10447 10420:M10448 ",
    "10421:M10449 10422:M1044a 10423:M1044b 10424:M1044c 10425:M1044d 10426:M1044e ",
    "10427:M1044f 10428:V 1049e:X 104a0:V 104aa:X 104b0:M104d8 104b1:M104d9 104b2:M104da ",
    "104b3:M104db 104b4:M104dc 104b5:M104dd 104b6:M104de 104b7:M104df 104b8:M104e0 ",
    "104b9:M104e1 104ba:M104e2 104bb:M104e3 104bc:M104e4 104bd:M104e5 104be:M104e6 ",
    "104bf:M104e7 104c0:M104e8 104c1:M104e9 104c2:M104ea 104c3:M104eb 104c4:M104ec ",
    "104c5:M104ed 104c6:M104ee 104c7:M104ef 104c8:M104f0 104c9:M104f1 104ca:M104f2 ",
    "104cb:M104f3 104cc:M104f4 104cd:M104f5 104ce:M104f6 104cf:M104f7 104d0:M104f8 ",
    "104d1:M104f9 104d2:M104fa 104d3:M104fb 104d4:X 104d8:V 104fc:X 10500:V 10528:X 10530:V ",
    "10564:X 1056f:V 10570:M10597 10571:M10598 10572:M10599 10573:M1059a 10574:M1059b ",
    "10575:M1059c 10576:M1059d 10577:M1059e 10578:M1059f 10579:M105a0 1057a:M105a1 1057b:X ",
    "1057c:M105a3 1057d:M105a4 1057e:M105a5 1057f:M105a6 10580:M105a7 10581:M105a8 ",
    "10582:M105a9 10583:M105aa 10584:M105ab 10585:M105ac 10586:M105ad 10587:M105ae ",
    "10588:M105af 10589:M105b0 1058a:M105b1 1058b:X 1058c:M105b3 1058d:M105b4 1058e:M105b5 ",
    "1058f:M105b6 10590:M105b7 10591:M105b8 10592:M105b9 10593:X 10594:M105bb 10595:M105bc ",
    "10596:X 10597:V 105a2:X 105a3:V 105b2:X 105b3:V 105ba:X 105bb:V 105bd:X 105c0:V 105f4:X ",
    "10600:V 10737:X 10740:V 10756:X 10760:V 10768:X 10780:V 10781:M2d0 10782:M2d1 10783:Me6 ",
    "10784:M299 10785:M253 10786:X 10787:M2a3 10788:Mab66 10789:M2a5 1078a:M2a4 1078b:M256 ",
    "1078c:M257 1078d:M1d91 1078e:M258 1078f:M25e 10790:M2a9 10791:M264 10792:M262 10793:M260 ",
    "10794:M29b 10795:M127 10796:M29c 10797:M267 10798:M284 10799:M2aa 1079a:M2ab 1079b:M26c ",
    "1079c:M1df04 1079d:Ma78e 1079e:M26e 1079f:M1df05 107a0:M28e 107a1:M1df06 107a2:Mf8 ",
    "107a3:M276 107a4:M277 107a5:M71 107a6:M27a 107a7:M1df08 107a8:M27d 107a9:M27e 107aa:M280 ",
    "107ab:M2a8 107ac:M2a6 107ad:Mab67 107ae:M2a7 107af:M288 107b0:M2c71 107b1:X 107b2:M28f ",
    "107b3:M2a1 107b4:M2a2 107b5:M298 107b6:M1c0 107b7:M1c1 107b8:M1c2 107b9:M1df0a ",
    "107ba:M1df1e 107bb:X 10800:V 10806:X 10808:V 10809:X 1080a:V 10836:X 10837:V 10839:X ",
    "1083c:V 1083d:X 1083f:V 10856:X 10857:V 1089f:X 108a7:V 108b0:X 108e0:V 108f3:X 108f4:V ",
    "108f6:X 108fb:V 1091c:X 1091f:V 1093a:X 1093f:V 1095a:X 10980:V 109b8:X 109bc:V 109d0:X ",
    "109d2:V 10a04:X 10a05:V 10a07:X 10a0c:V 10a14:X 10a15:V 10a18:X 10a19:V 10a36:X 10a38:V ",
    "10a3b:X 10a3f:V 10a49:X 10a50:V 10a59:X 10a60:V 10aa0:X 10ac0:V 10ae7:X 10aeb:V 10af7:X ",
    "10b00:V 10b36:X 10b39:V 10b56:X 10b58:V 10b73:X 10b78:V 10b92:X 10b99:V 10b9d:X 10ba9:V ",
    "10bb0:X 10c00:V 10c49:X 10c80:M10cc0 10c81:M10cc1 10c82:M10cc2 10c83:M10cc3 10c84:M10cc4 ",
    "10c85:M10cc5 10c86:M10cc6 10c87:M10cc7 10c88:M10cc8 10c89:M10cc9 10c8a:M10cca ",
    "10c8b:M10ccb 10c8c:M10ccc 10c8d:M10ccd 10c8e:M10cce 10c8f:M10ccf 10c90:M10cd0 ",
    "10c91:M10cd1 10c92:M10cd2 10c93:M10cd3 10c94:M10cd4 10c95:M10cd5 10c96:M10cd6 ",
    "10c97:M10cd7 10c98:M10cd8 10c99:M10cd9 10c9a:M10cda 10c9b:M10cdb 10c9c:M10cdc ",
    "10c9d:M10cdd 10c9e:M10cde 10c9f:M10cdf 10ca0:M10ce0 10ca1:M10ce1 10ca2:M10ce2 ",
    "10ca3:M10ce3 10ca4:M10ce4 10ca5:M10ce5 10ca6:M10ce6 10ca7:M10ce7 10ca8:M10ce8 ",
    "10ca9:M10ce9 10caa:M10cea 10cab:M10ceb 10cac:M10cec 10cad:M10ced 10cae:M10cee ",
    "10caf:M10cef 10cb0:M10cf0 10cb1:M10cf1 10cb2:M10cf2 10cb3:X 10cc0:V 10cf3:X 10cfa:V ",
    "10d28:X 10d30:V 10d3a:X 10d40:V 10d50:M10d70 10d51:M10d71 10d52:M10d72 10d53:M10d73 ",
    "10d54:M10d74 10d55:M10d75 10d56:M10d76 10d57:M10d77 10d58:M10d78 10d59:M10d79 ",
    "10d5a:M10d7a 10d5b:M10d7b 10d5c:M10d7c 10d5d:M10d7d 10d5e:M10d7e 10d5f:M10d7f ",
    "10d60:M10d80 10d61:M10d81 10d62:M10d82 10d63:M10d83 10d64:M10d84 10d65:M10d85 10d66:X ",
    "10d69:V 10d86:X 10d8e:V 10d90:X 10e60:V 10e7f:X 10e80:V 10eaa:X 10eab:V 10eae:X 10eb0:V ",
    "10eb2:X 10ec2:V 10ec8:X 10ed0:V 10ed9:X 10efa:V 10f28:X 10f30:V 10f5a:X 10f70:V 10f8a:X ",
    "10fb0:V 10fcc:X 10fe0:V 10ff7:X 11000:V 1104e:X 11052:V 11076:X 1107f:V 110bd:X 110be:V ",
    "110c3:X 110d0:V 110e9:X 110f0:V 110fa:X 11100:V 11135:X 11136:V 11148:X 11150:V 11177:X ",
    "11180:V 111e0:X 111e1:V 111f5:X 11200:V 11212:X 11213:V 11242:X 11280:V 11287:X 11288:V ",
    "11289:X 1128a:V 1128e:X 1128f:V 1129e:X 1129f:V 112aa:X 112b0:V 112eb:X 112f0:V 112fa:X ",
    "11300:V 11304:X 11305:V 1130d:X 1130f:V 11311:X 11313:V 11329:X 1132a:V 11331:X 11332:V ",
    "11334:X 11335:V 1133a:X 1133b:V 11345:X 11347:V 11349:X 1134b:V 1134e:X 11350:V 11351:X ",
    "11357:V 11358:X 1135d:V 11364:X 11366:V 1136d:X 11370:V 11375:X 11380:V 1138a:X 1138b:V ",
    "1138c:X 1138e:V 1138f:X 11390:V 113b6:X 113b7:V 113c1:X 113c2:V 113c3:X 113c5:V 113c6:X ",
    "113c7:V 113cb:X 113cc:V 113d6:X 113d7:V 113d9:X 113e1:V 113e3:X 11400:V 1145c:X 1145d:V ",
    "11462:X 11480:V 114c8:X 114d0:V 114da:X 11580:V 115b6:X 115b8:V 115de:X 11600:V 11645:X ",
    "11650:V 1165a:X 11660:V 1166d:X 11680:V 116ba:X 116c0:V 116ca:X 116d0:V 116e4:X 11700:V ",
    "1171b:X 1171d:V 1172c:X 11730:V 11747:X 11800:V 1183c:X 118a0:M118c0 118a1:M118c1 ",
    "118a2:M118c2 118a3:M118c3 118a4:M118c4 118a5:M118c5 118a6:M118c6 118a7:M118c7 ",
    "118a8:M118c8 118a9:M118c9 118aa:M118ca 118ab:M118cb 118ac:M118cc 118ad:M118cd ",
    "118ae:M118ce 118af:M118cf 118b0:M118d0 118b1:M118d1 118b2:M118d2 118b3:M118d3 ",
    "118b4:M118d4 118b5:M118d5 118b6:M118d6 118b7:M118d7 118b8:M118d8 118b9:M118d9 ",
    "118ba:M118da 118bb:M118db 118bc:M118dc 118bd:M118dd 118be:M118de 118bf:M118df 118c0:V ",
    "118f3:X 118ff:V 11907:X 11909:V 1190a:X 1190c:V 11914:X 11915:V 11917:X 11918:V 11936:X ",
    "11937:V 11939:X 1193b:V 11947:X 11950:V 1195a:X 119a0:V 119a8:X 119aa:V 119d8:X 119da:V ",
    "119e5:X 11a00:V 11a48:X 11a50:V 11aa3:X 11ab0:V 11af9:X 11b00:V 11b0a:X 11b60:V 11b68:X ",
    "11bc0:V 11be2:X 11bf0:V 11bfa:X 11c00:V 11c09:X 11c0a:V 11c37:X 11c38:V 11c46:X 11c50:V ",
    "11c6d:X 11c70:V 11c90:X 11c92:V 11ca8:X 11ca9:V 11cb7:X 11d00:V 11d07:X 11d08:V 11d0a:X ",
    "11d0b:V 11d37:X 11d3a:V 11d3b:X 11d3c:V 11d3e:X 11d3f:V 11d48:X 11d50:V 11d5a:X 11d60:V ",
    "11d66:X 11d67:V 11d69:X 11d6a:V 11d8f:X 11d90:V 11d92:X 11d93:V 11d99:X 11da0:V 11daa:X ",
    "11db0:V 11ddc:X 11de0:V 11dea:X 11ee0:V 11ef9:X 11f00:V 11f11:X 11f12:V 11f3b:X 11f3e:V ",
    "11f5b:X 11fb0:V 11fb1:X 11fc0:V 11ff2:X 11fff:V 1239a:X 12400:V 1246f:X 12470:V 12475:X ",
    "12480:V 12544:X 12f90:V 12ff3:X 13000:V 13430:X 13440:V 13456:X 13460:V 143fb:X 14400:V ",
    "14647:X 16100:V 1613a:X 16800:V 16a39:X 16a40:V 16a5f:X 16a60:V 16a6a:X 16a6e:V 16abf:X ",
    "16ac0:V 16aca:X 16ad0:V 16aee:X 16af0:V 16af6:X 16b00:V 16b46:X 16b50:V 16b5a:X 16b5b:V ",
    "16b62:X 16b63:V 16b78:X 16b7d:V 16b90:X 16d40:V 16d7a:X 16e40:M16e60 16e41:M16e61 ",
    "16e42:M16e62 16e43:M16e63 16e44:M16e64 16e45:M16e65 16e46:M16e66 16e47:M16e67 ",
    "16e48:M16e68 16e49:M16e69 16e4a:M16e6a 16e4b:M16e6b 16e4c:M16e6c 16e4d:M16e6d ",
    "16e4e:M16e6e 16e4f:M16e6f 16e50:M16e70 16e51:M16e71 16e52:M16e72 16e53:M16e73 ",
    "16e54:M16e74 16e55:M16e75 16e56:M16e76 16e57:M16e77 16e58:M16e78 16e59:M16e79 ",
    "16e5a:M16e7a 16e5b:M16e7b 16e5c:M16e7c 16e5d:M16e7d 16e5e:M16e7e 16e5f:M16e7f 16e60:V ",
    "16e9b:X 16ea0:M16ebb 16ea1:M16ebc 16ea2:M16ebd 16ea3:M16ebe 16ea4:M16ebf 16ea5:M16ec0 ",
    "16ea6:M16ec1 16ea7:M16ec2 16ea8:M16ec3 16ea9:M16ec4 16eaa:M16ec5 16eab:M16ec6 ",
    "16eac:M16ec7 16ead:M16ec8 16eae:M16ec9 16eaf:M16eca 16eb0:M16ecb 16eb1:M16ecc ",
    "16eb2:M16ecd 16eb3:M16ece 16eb4:M16ecf 16eb5:M16ed0 16eb6:M16ed1 16eb7:M16ed2 ",
    "16eb8:M16ed3 16eb9:X 16ebb:V 16ed4:X 16f00:V 16f4b:X 16f4f:V 16f88:X 16f8f:V 16fa0:X ",
    "16fe0:V 16fe5:X 16ff0:V 16ff7:X 17000:V 18cd6:X 18cff:V 18d1f:X 18d80:V 18df3:X 1aff0:V ",
    "1aff4:X 1aff5:V 1affc:X 1affd:V 1afff:X 1b000:V 1b123:X 1b132:V 1b133:X 1b150:V 1b153:X ",
    "1b155:V 1b156:X 1b164:V 1b168:X 1b170:V 1b2fc:X 1bc00:V 1bc6b:X 1bc70:V 1bc7d:X 1bc80:V ",
    "1bc89:X 1bc90:V 1bc9a:X 1bc9c:V 1bca0:I 1bca4:X 1cc00:V 1ccd6:M61 1ccd7:M62 1ccd8:M63 ",
    "1ccd9:M64 1ccda:M65 1ccdb:M66 1ccdc:M67 1ccdd:M68 1ccde:M69 1ccdf:M6a 1cce0:M6b ",
    "1cce1:M6c 1cce2:M6d 1cce3:M6e 1cce4:M6f 1cce5:M70 1cce6:M71 1cce7:M72 1cce8:M73 ",
    "1cce9:M74 1ccea:M75 1cceb:M76 1ccec:M77 1cced:M78 1ccee:M79 1ccef:M7a 1ccf0:M30 ",
    "1ccf1:M31 1ccf2:M32 1ccf3:M33 1ccf4:M34 1ccf5:M35 1ccf6:M36 1ccf7:M37 1ccf8:M38 ",
    "1ccf9:M39 1ccfa:V 1ccfd:X 1cd00:V 1ceb4:X 1ceba:V 1ced1:X 1cee0:V 1cef1:X 1cf00:V ",
    "1cf2e:X 1cf30:V 1cf47:X 1cf50:V 1cfc4:X 1d000:V 1d0f6:X 1d100:V 1d127:X 1d129:V ",
    "1d15e:M1d157.1d165 1d15f:M1d158.1d165 1d160:M1d158.1d165.1d16e 1d161:M1d158.1d165.1d16f ",
    "1d162:M1d158.1d165.1d170 1d163:M1d158.1d165.1d171 1d164:M1d158.1d165.1d172 1d165:V ",
    "1d173:I 1d17b:V 1d1bb:M1d1b9.1d165 1d1bc:M1d1ba.1d165 1d1bd:M1d1b9.1d165.1d16e ",
    "1d1be:M1d1ba.1d165.1d16e 1d1bf:M1d1b9.1d165.1d16f 1d1c0:M1d1ba.1d165.1d16f 1d1c1:V ",
    "1d1eb:X 1d200:V 1d246:X 1d2c0:V 1d2d4:X 1d2e0:V 1d2f4:X 1d300:V 1d357:X 1d360:V 1d379:X ",
    "1d400:M61 1d401:M62 1d402:M63 1d403:M64 1d404:M65 1d405:M66 1d406:M67 1d407:M68 ",
    "1d408:M69 1d409:M6a 1d40a:M6b 1d40b:M6c 1d40c:M6d 1d40d:M6e 1d40e:M6f 1d40f:M70 ",
    "1d410:M71 1d411:M72 1d412:M73 1d413:M74 1d414:M75 1d415:M76 1d416:M77 1d417:M78 ",
    "1d418:M79 1d419:M7a 1d41a:M61 1d41b:M62 1d41c:M63 1d41d:M64 1d41e:M65 1d41f:M66 ",
    "1d420:M67 1d421:M68 1d422:M69 1d423:M6a 1d424:M6b 1d425:M6c 1d426:M6d 1d427:M6e ",
    "1d428:M6f 1d429:M70 1d42a:M71 1d42b:M72 1d42c:M73 1d42d:M74 1d42e:M75 1d42f:M76 ",
    "1d430:M77 1d431:M78 1d432:M79 1d433:M7a 1d434:M61 1d435:M62 1d436:M63 1d437:M64 ",
    "1d438:M65 1d439:M66 1d43a:M67 1d43b:M68 1d43c:M69 1d43d:M6a 1d43e:M6b 1d43f:M6c ",
    "1d440:M6d 1d441:M6e 1d442:M6f 1d443:M70 1d444:M71 1d445:M72 1d446:M73 1d447:M74 ",
    "1d448:M75 1d449:M76 1d44a:M77 1d44b:M78 1d44c:M79 1d44d:M7a 1d44e:M61 1d44f:M62 ",
    "1d450:M63 1d451:M64 1d452:M65 1d453:M66 1d454:M67 1d455:X 1d456:M69 1d457:M6a 1d458:M6b ",
    "1d459:M6c 1d45a:M6d 1d45b:M6e 1d45c:M6f 1d45d:M70 1d45e:M71 1d45f:M72 1d460:M73 ",
    "1d461:M74 1d462:M75 1d463:M76 1d464:M77 1d465:M78 1d466:M79 1d467:M7a 1d468:M61 ",
    "1d469:M62 1d46a:M63 1d46b:M64 1d46c:M65 1d46d:M66 1d46e:M67 1d46f:M68 1d470:M69 ",
    "1d471:M6a 1d472:M6b 1d473:M6c 1d474:M6d 1d475:M6e 1d476:M6f 1d477:M70 1d478:M71 ",
    "1d479:M72 1d47a:M73 1d47b:M74 1d47c:M75 1d47d:M76 1d47e:M77 1d47f:M78 1d480:M79 ",
    "1d481:M7a 1d482:M61 1d483:M62 1d484:M63 1d485:M64 1d486:M65 1d487:M66 1d488:M67 ",
    "1d489:M68 1d48a:M69 1d48b:M6a 1d48c:M6b 1d48d:M6c 1d48e:M6d 1d48f:M6e 1d490:M6f ",
    "1d491:M70 1d492:M71 1d493:M72 1d494:M73 1d495:M74 1d496:M75 1d497:M76 1d498:M77 ",
    "1d499:M78 1d49a:M79 1d49b:M7a 1d49c:M61 1d49d:X 1d49e:M63 1d49f:M64 1d4a0:X 1d4a2:M67 ",
    "1d4a3:X 1d4a5:M6a 1d4a6:M6b 1d4a7:X 1d4a9:M6e 1d4aa:M6f 1d4ab:M70 1d4ac:M71 1d4ad:X ",
    "1d4ae:M73 1d4af:M74 1d4b0:M75 1d4b1:M76 1d4b2:M77 1d4b3:M78 1d4b4:M79 1d4b5:M7a ",
    "1d4b6:M61 1d4b7:M62 1d4b8:M63 1d4b9:M64 1d4ba:X 1d4bb:M66 1d4bc:X 1d4bd:M68 1d4be:M69 ",
    "1d4bf:M6a 1d4c0:M6b 1d4c1:M6c 1d4c2:M6d 1d4c3:M6e 1d4c4:X 1d4c5:M70 1d4c6:M71 1d4c7:M72 ",
    "1d4c8:M73 1d4c9:M74 1d4ca:M75 1d4cb:M76 1d4cc:M77 1d4cd:M78 1d4ce:M79 1d4cf:M7a ",
    "1d4d0:M61 1d4d1:M62 1d4d2:M63 1d4d3:M64 1d4d4:M65 1d4d5:M66 1d4d6:M67 1d4d7:M68 ",
    "1d4d8:M69 1d4d9:M6a 1d4da:M6b 1d4db:M6c 1d4dc:M6d 1d4dd:M6e 1d4de:M6f 1d4df:M70 ",
    "1d4e0:M71 1d4e1:M72 1d4e2:M73 1d4e3:M74 1d4e4:M75 1d4e5:M76 1d4e6:M77 1d4e7:M78 ",
    "1d4e8:M79 1d4e9:M7a 1d4ea:M61 1d4eb:M62 1d4ec:M63 1d4ed:M64 1d4ee:M65 1d4ef:M66 ",
    "1d4f0:M67 1d4f1:M68 1d4f2:M69 1d4f3:M6a 1d4f4:M6b 1d4f5:M6c 1d4f6:M6d 1d4f7:M6e ",
    "1d4f8:M6f 1d4f9:M70 1d4fa:M71 1d4fb:M72 1d4fc:M73 1d4fd:M74 1d4fe:M75 1d4ff:M76 ",
    "1d500:M77 1d501:M78 1d502:M79 1d503:M7a 1d504:M61 1d505:M62 1d506:X 1d507:M64 1d508:M65 ",
    "1d509:M66 1d50a:M67 1d50b:X 1d50d:M6a 1d50e:M6b 1d50f:M6c 1d510:M6d 1d511:M6e 1d512:M6f ",
    "1d513:M70 1d514:M71 1d515:X 1d516:M73 1d517:M74 1d518:M75 1d519:M76 1d51a:M77 1d51b:M78 ",
    "1d51c:M79 1d51d:X 1d51e:M61 1d51f:M62 1d520:M63 1d521:M64 1d522:M65 1d523:M66 1d524:M67 ",
    "1d525:M68 1d526:M69 1d527:M6a 1d528:M6b 1d529:M6c 1d52a:M6d 1d52b:M6e 1d52c:M6f ",
    "1d52d:M70 1d52e:M71 1d52f:M72 1d530:M73 1d531:M74 1d532:M75 1d533:M76 1d534:M77 ",
    "1d535:M78 1d536:M79 1d537:M7a 1d538:M61 1d539:M62 1d53a:X 1d53b:M64 1d53c:M65 1d53d:M66 ",
    "1d53e:M67 1d53f:X 1d540:M69 1d541:M6a 1d542:M6b 1d543:M6c 1d544:M6d 1d545:X 1d546:M6f ",
    "1d547:X 1d54a:M73 1d54b:M74 1d54c:M75 1d54d:M76 1d54e:M77 1d54f:M78 1d550:M79 1d551:X ",
    "1d552:M61 1d553:M62 1d554:M63 1d555:M64 1d556:M65 1d557:M66 1d558:M67 1d559:M68 ",
    "1d55a:M69 1d55b:M6a 1d55c:M6b 1d55d:M6c 1d55e:M6d 1d55f:M6e 1d560:M6f 1d561:M70 ",
    "1d562:M71 1d563:M72 1d564:M73 1d565:M74 1d566:M75 1d567:M76 1d568:M77 1d569:M78 ",
    "1d56a:M79 1d56b:M7a 1d56c:M61 1d56d:M62 1d56e:M63 1d56f:M64 1d570:M65 1d571:M66 ",
    "1d572:M67 1d573:M68 1d574:M69 1d575:M6a 1d576:M6b 1d577:M6c 1d578:M6d 1d579:M6e ",
    "1d57a:M6f 1d57b:M70 1d57c:M71 1d57d:M72 1d57e:M73 1d57f:M74 1d580:M75 1d581:M76 ",
    "1d582:M77 1d583:M78 1d584:M79 1d585:M7a 1d586:M61 1d587:M62 1d588:M63 1d589:M64 ",
    "1d58a:M65 1d58b:M66 1d58c:M67 1d58d:M68 1d58e:M69 1d58f:M6a 1d590:M6b 1d591:M6c ",
    "1d592:M6d 1d593:M6e 1d594:M6f 1d595:M70 1d596:M71 1d597:M72 1d598:M73 1d599:M74 ",
    "1d59a:M75 1d59b:M76 1d59c:M77 1d59d:M78 1d59e:M79 1d59f:M7a 1d5a0:M61 1d5a1:M62 ",
    "1d5a2:M63 1d5a3:M64 1d5a4:M65 1d5a5:M66 1d5a6:M67 1d5a7:M68 1d5a8:M69 1d5a9:M6a ",
    "1d5aa:M6b 1d5ab:M6c 1d5ac:M6d 1d5ad:M6e 1d5ae:M6f 1d5af:M70 1d5b0:M71 1d5b1:M72 ",
    "1d5b2:M73 1d5b3:M74 1d5b4:M75 1d5b5:M76 1d5b6:M77 1d5b7:M78 1d5b8:M79 1d5b9:M7a ",
    "1d5ba:M61 1d5bb:M62 1d5bc:M63 1d5bd:M64 1d5be:M65 1d5bf:M66 1d5c0:M67 1d5c1:M68 ",
    "1d5c2:M69 1d5c3:M6a 1d5c4:M6b 1d5c5:M6c 1d5c6:M6d 1d5c7:M6e 1d5c8:M6f 1d5c9:M70 ",
    "1d5ca:M71 1d5cb:M72 1d5cc:M73 1d5cd:M74 1d5ce:M75 1d5cf:M76 1d5d0:M77 1d5d1:M78 ",
    "1d5d2:M79 1d5d3:M7a 1d5d4:M61 1d5d5:M62 1d5d6:M63 1d5d7:M64 1d5d8:M65 1d5d9:M66 ",
    "1d5da:M67 1d5db:M68 1d5dc:M69 1d5dd:M6a 1d5de:M6b 1d5df:M6c 1d5e0:M6d 1d5e1:M6e ",
    "1d5e2:M6f 1d5e3:M70 1d5e4:M71 1d5e5:M72 1d5e6:M73 1d5e7:M74 1d5e8:M75 1d5e9:M76 ",
    "1d5ea:M77 1d5eb:M78 1d5ec:M79 1d5ed:M7a 1d5ee:M61 1d5ef:M62 1d5f0:M63 1d5f1:M64 ",
    "1d5f2:M65 1d5f3:M66 1d5f4:M67 1d5f5:M68 1d5f6:M69 1d5f7:M6a 1d5f8:M6b 1d5f9:M6c ",
    "1d5fa:M6d 1d5fb:M6e 1d5fc:M6f 1d5fd:M70 1d5fe:M71 1d5ff:M72 1d600:M73 1d601:M74 ",
    "1d602:M75 1d603:M76 1d604:M77 1d605:M78 1d606:M79 1d607:M7a 1d608:M61 1d609:M62 ",
    "1d60a:M63 1d60b:M64 1d60c:M65 1d60d:M66 1d60e:M67 1d60f:M68 1d610:M69 1d611:M6a ",
    "1d612:M6b 1d613:M6c 1d614:M6d 1d615:M6e 1d616:M6f 1d617:M70 1d618:M71 1d619:M72 ",
    "1d61a:M73 1d61b:M74 1d61c:M75 1d61d:M76 1d61e:M77 1d61f:M78 1d620:M79 1d621:M7a ",
    "1d622:M61 1d623:M62 1d624:M63 1d625:M64 1d626:M65 1d627:M66 1d628:M67 1d629:M68 ",
    "1d62a:M69 1d62b:M6a 1d62c:M6b 1d62d:M6c 1d62e:M6d 1d62f:M6e 1d630:M6f 1d631:M70 ",
    "1d632:M71 1d633:M72 1d634:M73 1d635:M74 1d636:M75 1d637:M76 1d638:M77 1d639:M78 ",
    "1d63a:M79 1d63b:M7a 1d63c:M61 1d63d:M62 1d63e:M63 1d63f:M64 1d640:M65 1d641:M66 ",
    "1d642:M67 1d643:M68 1d644:M69 1d645:M6a 1d646:M6b 1d647:M6c 1d648:M6d 1d649:M6e ",
    "1d64a:M6f 1d64b:M70 1d64c:M71 1d64d:M72 1d64e:M73 1d64f:M74 1d650:M75 1d651:M76 ",
    "1d652:M77 1d653:M78 1d654:M79 1d655:M7a 1d656:M61 1d657:M62 1d658:M63 1d659:M64 ",
    "1d65a:M65 1d65b:M66 1d65c:M67 1d65d:M68 1d65e:M69 1d65f:M6a 1d660:M6b 1d661:M6c ",
    "1d662:M6d 1d663:M6e 1d664:M6f 1d665:M70 1d666:M71 1d667:M72 1d668:M73 1d669:M74 ",
    "1d66a:M75 1d66b:M76 1d66c:M77 1d66d:M78 1d66e:M79 1d66f:M7a 1d670:M61 1d671:M62 ",
    "1d672:M63 1d673:M64 1d674:M65 1d675:M66 1d676:M67 1d677:M68 1d678:M69 1d679:M6a ",
    "1d67a:M6b 1d67b:M6c 1d67c:M6d 1d67d:M6e 1d67e:M6f 1d67f:M70 1d680:M71 1d681:M72 ",
    "1d682:M73 1d683:M74 1d684:M75 1d685:M76 1d686:M77 1d687:M78 1d688:M79 1d689:M7a ",
    "1d68a:M61 1d68b:M62 1d68c:M63 1d68d:M64 1d68e:M65 1d68f:M66 1d690:M67 1d691:M68 ",
    "1d692:M69 1d693:M6a 1d694:M6b 1d695:M6c 1d696:M6d 1d697:M6e 1d698:M6f 1d699:M70 ",
    "1d69a:M71 1d69b:M72 1d69c:M73 1d69d:M74 1d69e:M75 1d69f:M76 1d6a0:M77 1d6a1:M78 ",
    "1d6a2:M79 1d6a3:M7a 1d6a4:M131 1d6a5:M237 1d6a6:X 1d6a8:M3b1 1d6a9:M3b2 1d6aa:M3b3 ",
    "1d6ab:M3b4 1d6ac:M3b5 1d6ad:M3b6 1d6ae:M3b7 1d6af:M3b8 1d6b0:M3b9 1d6b1:M3ba 1d6b2:M3bb ",
    "1d6b3:M3bc 1d6b4:M3bd 1d6b5:M3be 1d6b6:M3bf 1d6b7:M3c0 1d6b8:M3c1 1d6b9:M3b8 1d6ba:M3c3 ",
    "1d6bb:M3c4 1d6bc:M3c5 1d6bd:M3c6 1d6be:M3c7 1d6bf:M3c8 1d6c0:M3c9 1d6c1:M2207 1d6c2:M3b1 ",
    "1d6c3:M3b2 1d6c4:M3b3 1d6c5:M3b4 1d6c6:M3b5 1d6c7:M3b6 1d6c8:M3b7 1d6c9:M3b8 1d6ca:M3b9 ",
    "1d6cb:M3ba 1d6cc:M3bb 1d6cd:M3bc 1d6ce:M3bd 1d6cf:M3be 1d6d0:M3bf 1d6d1:M3c0 1d6d2:M3c1 ",
    "1d6d3:M3c3 1d6d5:M3c4 1d6d6:M3c5 1d6d7:M3c6 1d6d8:M3c7 1d6d9:M3c8 1d6da:M3c9 1d6db:M2202 ",
    "1d6dc:M3b5 1d6dd:M3b8 1d6de:M3ba 1d6df:M3c6 1d6e0:M3c1 1d6e1:M3c0 1d6e2:M3b1 1d6e3:M3b2 ",
    "1d6e4:M3b3 1d6e5:M3b4 1d6e6:M3b5 1d6e7:M3b6 1d6e8:M3b7 1d6e9:M3b8 1d6ea:M3b9 1d6eb:M3ba ",
    "1d6ec:M3bb 1d6ed:M3bc 1d6ee:M3bd 1d6ef:M3be 1d6f0:M3bf 1d6f1:M3c0 1d6f2:M3c1 1d6f3:M3b8 ",
    "1d6f4:M3c3 1d6f5:M3c4 1d6f6:M3c5 1d6f7:M3c6 1d6f8:M3c7 1d6f9:M3c8 1d6fa:M3c9 1d6fb:M2207 ",
    "1d6fc:M3b1 1d6fd:M3b2 1d6fe:M3b3 1d6ff:M3b4 1d700:M3b5 1d701:M3b6 1d702:M3b7 1d703:M3b8 ",
    "1d704:M3b9 1d705:M3ba 1d706:M3bb 1d707:M3bc 1d708:M3bd 1d709:M3be 1d70a:M3bf 1d70b:M3c0 ",
    "1d70c:M3c1 1d70d:M3c3 1d70f:M3c4 1d710:M3c5 1d711:M3c6 1d712:M3c7 1d713:M3c8 1d714:M3c9 ",
    "1d715:M2202 1d716:M3b5 1d717:M3b8 1d718:M3ba 1d719:M3c6 1d71a:M3c1 1d71b:M3c0 1d71c:M3b1 ",
    "1d71d:M3b2 1d71e:M3b3 1d71f:M3b4 1d720:M3b5 1d721:M3b6 1d722:M3b7 1d723:M3b8 1d724:M3b9 ",
    "1d725:M3ba 1d726:M3bb 1d727:M3bc 1d728:M3bd 1d729:M3be 1d72a:M3bf 1d72b:M3c0 1d72c:M3c1 ",
    "1d72d:M3b8 1d72e:M3c3 1d72f:M3c4 1d730:M3c5 1d731:M3c6 1d732:M3c7 1d733:M3c8 1d734:M3c9 ",
    "1d735:M2207 1d736:M3b1 1d737:M3b2 1d738:M3b3 1d739:M3b4 1d73a:M3b5 1d73b:M3b6 1d73c:M3b7 ",
    "1d73d:M3b8 1d73e:M3b9 1d73f:M3ba 1d740:M3bb 1d741:M3bc 1d742:M3bd 1d743:M3be 1d744:M3bf ",
    "1d745:M3c0 1d746:M3c1 1d747:M3c3 1d749:M3c4 1d74a:M3c5 1d74b:M3c6 1d74c:M3c7 1d74d:M3c8 ",
    "1d74e:M3c9 1d74f:M2202 1d750:M3b5 1d751:M3b8 1d752:M3ba 1d753:M3c6 1d754:M3c1 1d755:M3c0 ",
    "1d756:M3b1 1d757:M3b2 1d758:M3b3 1d759:M3b4 1d75a:M3b5 1d75b:M3b6 1d75c:M3b7 1d75d:M3b8 ",
    "1d75e:M3b9 1d75f:M3ba 1d760:M3bb 1d761:M3bc 1d762:M3bd 1d763:M3be 1d764:M3bf 1d765:M3c0 ",
    "1d766:M3c1 1d767:M3b8 1d768:M3c3 1d769:M3c4 1d76a:M3c5 1d76b:M3c6 1d76c:M3c7 1d76d:M3c8 ",
    "1d76e:M3c9 1d76f:M2207 1d770:M3b1 1d771:M3b2 1d772:M3b3 1d773:M3b4 1d774:M3b5 1d775:M3b6 ",
    "1d776:M3b7 1d777:M3b8 1d778:M3b9 1d779:M3ba 1d77a:M3bb 1d77b:M3bc 1d77c:M3bd 1d77d:M3be ",
    "1d77e:M3bf 1d77f:M3c0 1d780:M3c1 1d781:M3c3 1d783:M3c4 1d784:M3c5 1d785:M3c6 1d786:M3c7 ",
    "1d787:M3c8 1d788:M3c9 1d789:M2202 1d78a:M3b5 1d78b:M3b8 1d78c:M3ba 1d78d:M3c6 1d78e:M3c1 ",
    "1d78f:M3c0 1d790:M3b1 1d791:M3b2 1d792:M3b3 1d793:M3b4 1d794:M3b5 1d795:M3b6 1d796:M3b7 ",
    "1d797:M3b8 1d798:M3b9 1d799:M3ba 1d79a:M3bb 1d79b:M3bc 1d79c:M3bd 1d79d:M3be 1d79e:M3bf ",
    "1d79f:M3c0 1d7a0:M3c1 1d7a1:M3b8 1d7a2:M3c3 1d7a3:M3c4 1d7a4:M3c5 1d7a5:M3c6 1d7a6:M3c7 ",
    "1d7a7:M3c8 1d7a8:M3c9 1d7a9:M2207 1d7aa:M3b1 1d7ab:M3b2 1d7ac:M3b3 1d7ad:M3b4 1d7ae:M3b5 ",
    "1d7af:M3b6 1d7b0:M3b7 1d7b1:M3b8 1d7b2:M3b9 1d7b3:M3ba 1d7b4:M3bb 1d7b5:M3bc 1d7b6:M3bd ",
    "1d7b7:M3be 1d7b8:M3bf 1d7b9:M3c0 1d7ba:M3c1 1d7bb:M3c3 1d7bd:M3c4 1d7be:M3c5 1d7bf:M3c6 ",
    "1d7c0:M3c7 1d7c1:M3c8 1d7c2:M3c9 1d7c3:M2202 1d7c4:M3b5 1d7c5:M3b8 1d7c6:M3ba 1d7c7:M3c6 ",
    "1d7c8:M3c1 1d7c9:M3c0 1d7ca:M3dd 1d7cc:X 1d7ce:M30 1d7cf:M31 1d7d0:M32 1d7d1:M33 ",
    "1d7d2:M34 1d7d3:M35 1d7d4:M36 1d7d5:M37 1d7d6:M38 1d7d7:M39 1d7d8:M30 1d7d9:M31 ",
    "1d7da:M32 1d7db:M33 1d7dc:M34 1d7dd:M35 1d7de:M36 1d7df:M37 1d7e0:M38 1d7e1:M39 ",
    "1d7e2:M30 1d7e3:M31 1d7e4:M32 1d7e5:M33 1d7e6:M34 1d7e7:M35 1d7e8:M36 1d7e9:M37 ",
    "1d7ea:M38 1d7eb:M39 1d7ec:M30 1d7ed:M31 1d7ee:M32 1d7ef:M33 1d7f0:M34 1d7f1:M35 ",
    "1d7f2:M36 1d7f3:M37 1d7f4:M38 1d7f5:M39 1d7f6:M30 1d7f7:M31 1d7f8:M32 1d7f9:M33 ",
    "1d7fa:M34 1d7fb:M35 1d7fc:M36 1d7fd:M37 1d7fe:M38 1d7ff:M39 1d800:V 1da8c:X 1da9b:V ",
    "1daa0:X 1daa1:V 1dab0:X 1df00:V 1df1f:X 1df25:V 1df2b:X 1e000:V 1e007:X 1e008:V 1e019:X ",
    "1e01b:V 1e022:X 1e023:V 1e025:X 1e026:V 1e02b:X 1e030:M430 1e031:M431 1e032:M432 ",
    "1e033:M433 1e034:M434 1e035:M435 1e036:M436 1e037:M437 1e038:M438 1e039:M43a 1e03a:M43b ",
    "1e03b:M43c 1e03c:M43e 1e03d:M43f 1e03e:M440 1e03f:M441 1e040:M442 1e041:M443 1e042:M444 ",
    "1e043:M445 1e044:M446 1e045:M447 1e046:M448 1e047:M44b 1e048:M44d 1e049:M44e 1e04a:Ma689 ",
    "1e04b:M4d9 1e04c:M456 1e04d:M458 1e04e:M4e9 1e04f:M4af 1e050:M4cf 1e051:M430 1e052:M431 ",
    "1e053:M432 1e054:M433 1e055:M434 1e056:M435 1e057:M436 1e058:M437 1e059:M438 1e05a:M43a ",
    "1e05b:M43b 1e05c:M43e 1e05d:M43f 1e05e:M441 1e05f:M443 1e060:M444 1e061:M445 1e062:M446 ",
    "1e063:M447 1e064:M448 1e065:M44a 1e066:M44b 1e067:M491 1e068:M456 1e069:M455 1e06a:M45f ",
    "1e06b:M4ab 1e06c:Ma651 1e06d:M4b1 1e06e:X 1e08f:V 1e090:X 1e100:V 1e12d:X 1e130:V ",
    "1e13e:X 1e140:V 1e14a:X 1e14e:V 1e150:X 1e290:V 1e2af:X 1e2c0:V 1e2fa:X 1e2ff:V 1e300:X ",
    "1e4d0:V 1e4fa:X 1e5d0:V 1e5fb:X 1e5ff:V 1e600:X 1e6c0:V 1e6df:X 1e6e0:V 1e6f6:X 1e6fe:V ",
    "1e700:X 1e7e0:V 1e7e7:X 1e7e8:V 1e7ec:X 1e7ed:V 1e7ef:X 1e7f0:V 1e7ff:X 1e800:V 1e8c5:X ",
    "1e8c7:V 1e8d7:X 1e900:M1e922 1e901:M1e923 1e902:M1e924 1e903:M1e925 1e904:M1e926 ",
    "1e905:M1e927 1e906:M1e928 1e907:M1e929 1e908:M1e92a 1e909:M1e92b 1e90a:M1e92c ",
    "1e90b:M1e92d 1e90c:M1e92e 1e90d:M1e92f 1e90e:M1e930 1e90f:M1e931 1e910:M1e932 ",
    "1e911:M1e933 1e912:M1e934 1e913:M1e935 1e914:M1e936 1e915:M1e937 1e916:M1e938 ",
    "1e917:M1e939 1e918:M1e93a 1e919:M1e93b 1e91a:M1e93c 1e91b:M1e93d 1e91c:M1e93e ",
    "1e91d:M1e93f 1e91e:M1e940 1e91f:M1e941 1e920:M1e942 1e921:M1e943 1e922:V 1e94c:X 1e950:V ",
    "1e95a:X 1e95e:V 1e960:X 1ec71:V 1ecb5:X 1ed01:V 1ed3e:X 1ee00:M627 1ee01:M628 1ee02:M62c ",
    "1ee03:M62f 1ee04:X 1ee05:M648 1ee06:M632 1ee07:M62d 1ee08:M637 1ee09:M64a 1ee0a:M643 ",
    "1ee0b:M644 1ee0c:M645 1ee0d:M646 1ee0e:M633 1ee0f:M639 1ee10:M641 1ee11:M635 1ee12:M642 ",
    "1ee13:M631 1ee14:M634 1ee15:M62a 1ee16:M62b 1ee17:M62e 1ee18:M630 1ee19:M636 1ee1a:M638 ",
    "1ee1b:M63a 1ee1c:M66e 1ee1d:M6ba 1ee1e:M6a1 1ee1f:M66f 1ee20:X 1ee21:M628 1ee22:M62c ",
    "1ee23:X 1ee24:M647 1ee25:X 1ee27:M62d 1ee28:X 1ee29:M64a 1ee2a:M643 1ee2b:M644 ",
    "1ee2c:M645 1ee2d:M646 1ee2e:M633 1ee2f:M639 1ee30:M641 1ee31:M635 1ee32:M642 1ee33:X ",
    "1ee34:M634 1ee35:M62a 1ee36:M62b 1ee37:M62e 1ee38:X 1ee39:M636 1ee3a:X 1ee3b:M63a ",
    "1ee3c:X 1ee42:M62c 1ee43:X 1ee47:M62d 1ee48:X 1ee49:M64a 1ee4a:X 1ee4b:M644 1ee4c:X ",
    "1ee4d:M646 1ee4e:M633 1ee4f:M639 1ee50:X 1ee51:M635 1ee52:M642 1ee53:X 1ee54:M634 ",
    "1ee55:X 1ee57:M62e 1ee58:X 1ee59:M636 1ee5a:X 1ee5b:M63a 1ee5c:X 1ee5d:M6ba 1ee5e:X ",
    "1ee5f:M66f 1ee60:X 1ee61:M628 1ee62:M62c 1ee63:X 1ee64:M647 1ee65:X 1ee67:M62d ",
    "1ee68:M637 1ee69:M64a 1ee6a:M643 1ee6b:X 1ee6c:M645 1ee6d:M646 1ee6e:M633 1ee6f:M639 ",
    "1ee70:M641 1ee71:M635 1ee72:M642 1ee73:X 1ee74:M634 1ee75:M62a 1ee76:M62b 1ee77:M62e ",
    "1ee78:X 1ee79:M636 1ee7a:M638 1ee7b:M63a 1ee7c:M66e 1ee7d:X 1ee7e:M6a1 1ee7f:X ",
    "1ee80:M627 1ee81:M628 1ee82:M62c 1ee83:M62f 1ee84:M647 1ee85:M648 1ee86:M632 1ee87:M62d ",
    "1ee88:M637 1ee89:M64a 1ee8a:X 1ee8b:M644 1ee8c:M645 1ee8d:M646 1ee8e:M633 1ee8f:M639 ",
    "1ee90:M641 1ee91:M635 1ee92:M642 1ee93:M631 1ee94:M634 1ee95:M62a 1ee96:M62b 1ee97:M62e ",
    "1ee98:M630 1ee99:M636 1ee9a:M638 1ee9b:M63a 1ee9c:X 1eea1:M628 1eea2:M62c 1eea3:M62f ",
    "1eea4:X 1eea5:M648 1eea6:M632 1eea7:M62d 1eea8:M637 1eea9:M64a 1eeaa:X 1eeab:M644 ",
    "1eeac:M645 1eead:M646 1eeae:M633 1eeaf:M639 1eeb0:M641 1eeb1:M635 1eeb2:M642 1eeb3:M631 ",
    "1eeb4:M634 1eeb5:M62a 1eeb6:M62b 1eeb7:M62e 1eeb8:M630 1eeb9:M636 1eeba:M638 1eebb:M63a ",
    "1eebc:X 1eef0:V 1eef2:X 1f000:V 1f02c:X 1f030:V 1f094:X 1f0a0:V 1f0af:X 1f0b1:V 1f0c0:X ",
    "1f0c1:V 1f0d0:X 1f0d1:V 1f0f6:X 1f101:M30.2c 1f102:M31.2c 1f103:M32.2c 1f104:M33.2c ",
    "1f105:M34.2c 1f106:M35.2c 1f107:M36.2c 1f108:M37.2c 1f109:M38.2c 1f10a:M39.2c 1f10b:V ",
    "1f110:M28.61.29 1f111:M28.62.29 1f112:M28.63.29 1f113:M28.64.29 1f114:M28.65.29 ",
    "1f115:M28.66.29 1f116:M28.67.29 1f117:M28.68.29 1f118:M28.69.29 1f119:M28.6a.29 ",
    "1f11a:M28.6b.29 1f11b:M28.6c.29 1f11c:M28.6d.29 1f11d:M28.6e.29 1f11e:M28.6f.29 ",
    "1f11f:M28.70.29 1f120:M28.71.29 1f121:M28.72.29 1f122:M28.73.29 1f123:M28.74.29 ",
    "1f124:M28.75.29 1f125:M28.76.29 1f126:M28.77.29 1f127:M28.78.29 1f128:M28.79.29 ",
    "1f129:M28.7a.29 1f12a:M3014.73.3015 1f12b:M63 1f12c:M72 1f12d:M63.64 1f12e:M77.7a ",
    "1f12f:V 1f130:M61 1f131:M62 1f132:M63 1f133:M64 1f134:M65 1f135:M66 1f136:M67 1f137:M68 ",
    "1f138:M69 1f139:M6a 1f13a:M6b 1f13b:M6c 1f13c:M6d 1f13d:M6e 1f13e:M6f 1f13f:M70 ",
    "1f140:M71 1f141:M72 1f142:M73 1f143:M74 1f144:M75 1f145:M76 1f146:M77 1f147:M78 ",
    "1f148:M79 1f149:M7a 1f14a:M68.76 1f14b:M6d.76 1f14c:M73.64 1f14d:M73.73 1f14e:M70.70.76 ",
    "1f14f:M77.63 1f150:V 1f16a:M6d.63 1f16b:M6d.64 1f16c:M6d.72 1f16d:V 1f190:M64.6a 1f191:V ",
    "1f1ae:X 1f1e6:V 1f200:M307b.304b 1f201:M30b3.30b3 1f202:M30b5 1f203:X 1f210:M624b ",
    "1f211:M5b57 1f212:M53cc 1f213:M30c7 1f214:M4e8c 1f215:M591a 1f216:M89e3 1f217:M5929 ",
    "1f218:M4ea4 1f219:M6620 1f21a:M7121 1f21b:M6599 1f21c:M524d 1f21d:M5f8c 1f21e:M518d ",
    "1f21f:M65b0 1f220:M521d 1f221:M7d42 1f222:M751f 1f223:M8ca9 1f224:M58f0 1f225:M5439 ",
    "1f226:M6f14 1f227:M6295 1f228:M6355 1f229:M4e00 1f22a:M4e09 1f22b:M904a 1f22c:M5de6 ",
    "1f22d:M4e2d 1f22e:M53f3 1f22f:M6307 1f230:M8d70 1f231:M6253 1f232:M7981 1f233:M7a7a ",
    "1f234:M5408 1f235:M6e80 1f236:M6709 1f237:M6708 1f238:M7533 1f239:M5272 1f23a:M55b6 ",
    "1f23b:M914d 1f23c:X 1f240:M3014.672c.3015 1f241:M3014.4e09.3015 1f242:M3014.4e8c.3015 ",
    "1f243:M3014.5b89.3015 1f244:M3014.70b9.3015 1f245:M3014.6253.3015 1f246:M3014.76d7.3015 ",
    "1f247:M3014.52dd.3015 1f248:M3014.6557.3015 1f249:X 1f250:M5f97 1f251:M53ef 1f252:X ",
    "1f260:V 1f266:X 1f300:V 1f6d9:X 1f6dc:V 1f6ed:X 1f6f0:V 1f6fd:X 1f700:V 1f7da:X 1f7e0:V ",
    "1f7ec:X 1f7f0:V 1f7f1:X 1f800:V 1f80c:X 1f810:V 1f848:X 1f850:V 1f85a:X 1f860:V 1f888:X ",
    "1f890:V 1f8ae:X 1f8b0:V 1f8bc:X 1f8c0:V 1f8c2:X 1f8d0:V 1f8d9:X 1f900:V 1fa58:X 1fa60:V ",
    "1fa6e:X 1fa70:V 1fa7d:X 1fa80:V 1fa8b:X 1fa8e:V 1fac7:X 1fac8:V 1fac9:X 1facd:V 1fadd:X ",
    "1fadf:V 1faeb:X 1faef:V 1faf9:X 1fb00:V 1fb93:X 1fb94:V 1fbf0:M30 1fbf1:M31 1fbf2:M32 ",
    "1fbf3:M33 1fbf4:M34 1fbf5:M35 1fbf6:M36 1fbf7:M37 1fbf8:M38 1fbf9:M39 1fbfa:V 1fbfb:X ",
    "20000:V 2a6e0:X 2a700:V 2b81e:X 2b820:V 2ceae:X 2ceb0:V 2ebe1:X 2ebf0:V 2ee5e:X ",
    "2f800:M4e3d 2f801:M4e38 2f802:M4e41 2f803:M20122 2f804:M4f60 2f805:M4fae 2f806:M4fbb ",
    "2f807:M5002 2f808:M507a 2f809:M5099 2f80a:M50e7 2f80b:M50cf 2f80c:M349e 2f80d:M2063a ",
    "2f80e:M514d 2f80f:M5154 2f810:M5164 2f811:M5177 2f812:M2051c 2f813:M34b9 2f814:M5167 ",
    "2f815:M518d 2f816:M2054b 2f817:M5197 2f818:M51a4 2f819:M4ecc 2f81a:M51ac 2f81b:M51b5 ",
    "2f81c:M291df 2f81d:M51f5 2f81e:M5203 2f81f:M34df 2f820:M523b 2f821:M5246 2f822:M5272 ",
    "2f823:M5277 2f824:M3515 2f825:M52c7 2f826:M52c9 2f827:M52e4 2f828:M52fa 2f829:M5305 ",
    "2f82a:M5306 2f82b:M5317 2f82c:M5349 2f82d:M5351 2f82e:M535a 2f82f:M5373 2f830:M537d ",
    "2f831:M537f 2f834:M20a2c 2f835:M7070 2f836:M53ca 2f837:M53df 2f838:M20b63 2f839:M53eb ",
    "2f83a:M53f1 2f83b:M5406 2f83c:M549e 2f83d:M5438 2f83e:M5448 2f83f:M5468 2f840:M54a2 ",
    "2f841:M54f6 2f842:M5510 2f843:M5553 2f844:M5563 2f845:M5584 2f847:M5599 2f848:M55ab ",
    "2f849:M55b3 2f84a:M55c2 2f84b:M5716 2f84c:M5606 2f84d:M5717 2f84e:M5651 2f84f:M5674 ",
    "2f850:M5207 2f851:M58ee 2f852:M57ce 2f853:M57f4 2f854:M580d 2f855:M578b 2f856:M5832 ",
    "2f857:M5831 2f858:M58ac 2f859:M214e4 2f85a:M58f2 2f85b:M58f7 2f85c:M5906 2f85d:M591a ",
    "2f85e:M5922 2f85f:M5962 2f860:M216a8 2f861:M216ea 2f862:M59ec 2f863:M5a1b 2f864:M5a27 ",
    "2f865:M59d8 2f866:M5a66 2f867:M36ee 2f868:M36fc 2f869:M5b08 2f86a:M5b3e 2f86c:M219c8 ",
    "2f86d:M5bc3 2f86e:M5bd8 2f86f:M5be7 2f870:M5bf3 2f871:M21b18 2f872:M5bff 2f873:M5c06 ",
    "2f874:M5f53 2f875:M5c22 2f876:M3781 2f877:M5c60 2f878:M5c6e 2f879:M5cc0 2f87a:M5c8d ",
    "2f87b:M21de4 2f87c:M5d43 2f87d:M21de6 2f87e:M5d6e 2f87f:M5d6b 2f880:M5d7c 2f881:M5de1 ",
    "2f882:M5de2 2f883:M382f 2f884:M5dfd 2f885:M5e28 2f886:M5e3d 2f887:M5e69 2f888:M3862 ",
    "2f889:M22183 2f88a:M387c 2f88b:M5eb0 2f88c:M5eb3 2f88d:M5eb6 2f88e:M5eca 2f88f:M2a392 ",
    "2f890:M5efe 2f891:M22331 2f893:M8201 2f894:M5f22 2f896:M38c7 2f897:M232b8 2f898:M261da ",
    "2f899:M5f62 2f89a:M5f6b 2f89b:M38e3 2f89c:M5f9a 2f89d:M5fcd 2f89e:M5fd7 2f89f:M5ff9 ",
    "2f8a0:M6081 2f8a1:M393a 2f8a2:M391c 2f8a3:M6094 2f8a4:M226d4 2f8a5:M60c7 2f8a6:M6148 ",
    "2f8a7:M614c 2f8a8:M614e 2f8a9:M614c 2f8aa:M617a 2f8ab:M618e 2f8ac:M61b2 2f8ad:M61a4 ",
    "2f8ae:M61af 2f8af:M61de 2f8b0:M61f2 2f8b1:M61f6 2f8b2:M6210 2f8b3:M621b 2f8b4:M625d ",
    "2f8b5:M62b1 2f8b6:M62d4 2f8b7:M6350 2f8b8:M22b0c 2f8b9:M633d 2f8ba:M62fc 2f8bb:M6368 ",
    "2f8bc:M6383 2f8bd:M63e4 2f8be:M22bf1 2f8bf:M6422 2f8c0:M63c5 2f8c1:M63a9 2f8c2:M3a2e ",
    "2f8c3:M6469 2f8c4:M647e 2f8c5:M649d 2f8c6:M6477 2f8c7:M3a6c 2f8c8:M654f 2f8c9:M656c ",
    "2f8ca:M2300a 2f8cb:M65e3 2f8cc:M66f8 2f8cd:M6649 2f8ce:M3b19 2f8cf:M6691 2f8d0:M3b08 ",
    "2f8d1:M3ae4 2f8d2:M5192 2f8d3:M5195 2f8d4:M6700 2f8d5:M669c 2f8d6:M80ad 2f8d7:M43d9 ",
    "2f8d8:M6717 2f8d9:M671b 2f8da:M6721 2f8db:M675e 2f8dc:M6753 2f8dd:M233c3 2f8de:M3b49 ",
    "2f8df:M67fa 2f8e0:M6785 2f8e1:M6852 2f8e2:M6885 2f8e3:M2346d 2f8e4:M688e 2f8e5:M681f ",
    "2f8e6:M6914 2f8e7:M3b9d 2f8e8:M6942 2f8e9:M69a3 2f8ea:M69ea 2f8eb:M6aa8 2f8ec:M236a3 ",
    "2f8ed:M6adb 2f8ee:M3c18 2f8ef:M6b21 2f8f0:M238a7 2f8f1:M6b54 2f8f2:M3c4e 2f8f3:M6b72 ",
    "2f8f4:M6b9f 2f8f5:M6bba 2f8f6:M6bbb 2f8f7:M23a8d 2f8f8:M21d0b 2f8f9:M23afa 2f8fa:M6c4e ",
    "2f8fb:M23cbc 2f8fc:M6cbf 2f8fd:M6ccd 2f8fe:M6c67 2f8ff:M6d16 2f900:M6d3e 2f901:M6d77 ",
    "2f902:M6d41 2f903:M6d69 2f904:M6d78 2f905:M6d85 2f906:M23d1e 2f907:M6d34 2f908:M6e2f ",
    "2f909:M6e6e 2f90a:M3d33 2f90b:M6ecb 2f90c:M6ec7 2f90d:M23ed1 2f90e:M6df9 2f90f:M6f6e ",
    "2f910:M23f5e 2f911:M23f8e 2f912:M6fc6 2f913:M7039 2f914:M701e 2f915:M701b 2f916:M3d96 ",
    "2f917:M704a 2f918:M707d 2f919:M7077 2f91a:M70ad 2f91b:M20525 2f91c:M7145 2f91d:M24263 ",
    "2f91e:M719c 2f91f:M243ab 2f920:M7228 2f921:M7235 2f922:M7250 2f923:M24608 2f924:M7280 ",
    "2f925:M7295 2f926:M24735 2f927:M24814 2f928:M737a 2f929:M738b 2f92a:M3eac 2f92b:M73a5 ",
    "2f92c:M3eb8 2f92e:M7447 2f92f:M745c 2f930:M7471 2f931:M7485 2f932:M74ca 2f933:M3f1b ",
    "2f934:M7524 2f935:M24c36 2f936:M753e 2f937:M24c92 2f938:M7570 2f939:M2219f 2f93a:M7610 ",
    "2f93b:M24fa1 2f93c:M24fb8 2f93d:M25044 2f93e:M3ffc 2f93f:M4008 2f940:M76f4 2f941:M250f3 ",
    "2f942:M250f2 2f943:M25119 2f944:M25133 2f945:M771e 2f946:M771f 2f948:M774a 2f949:M4039 ",
    "2f94a:M778b 2f94b:M4046 2f94c:M4096 2f94d:M2541d 2f94e:M784e 2f94f:M788c 2f950:M78cc ",
    "2f951:M40e3 2f952:M25626 2f953:M7956 2f954:M2569a 2f955:M256c5 2f956:M798f 2f957:M79eb ",
    "2f958:M412f 2f959:M7a40 2f95a:M7a4a 2f95b:M7a4f 2f95c:M2597c 2f95d:M25aa7 2f95f:M7aee ",
    "2f960:M4202 2f961:M25bab 2f962:M7bc6 2f963:M7bc9 2f964:M4227 2f965:M25c80 2f966:M7cd2 ",
    "2f967:M42a0 2f968:M7ce8 2f969:M7ce3 2f96a:M7d00 2f96b:M25f86 2f96c:M7d63 2f96d:M4301 ",
    "2f96e:M7dc7 2f96f:M7e02 2f970:M7e45 2f971:M4334 2f972:M26228 2f973:M26247 2f974:M4359 ",
    "2f975:M262d9 2f976:M7f7a 2f977:M2633e 2f978:M7f95 2f979:M7ffa 2f97a:M8005 2f97b:M264da ",
    "2f97c:M26523 2f97d:M8060 2f97e:M265a8 2f97f:M8070 2f980:M2335f 2f981:M43d5 2f982:M80b2 ",
    "2f983:M8103 2f984:M440b 2f985:M813e 2f986:M5ab5 2f987:M267a7 2f988:M267b5 2f989:M23393 ",
    "2f98a:M2339c 2f98b:M8201 2f98c:M8204 2f98d:M8f9e 2f98e:M446b 2f98f:M8291 2f990:M828b ",
    "2f991:M829d 2f992:M52b3 2f993:M82b1 2f994:M82b3 2f995:M82bd 2f996:M82e6 2f997:M26b3c ",
    "2f998:M82e5 2f999:M831d 2f99a:M8363 2f99b:M83ad 2f99c:M8323 2f99d:M83bd 2f99e:M83e7 ",
    "2f99f:M8457 2f9a0:M8353 2f9a1:M83ca 2f9a2:M83cc 2f9a3:M83dc 2f9a4:M26c36 2f9a5:M26d6b ",
    "2f9a6:M26cd5 2f9a7:M452b 2f9a8:M84f1 2f9a9:M84f3 2f9aa:M8516 2f9ab:M273ca 2f9ac:M8564 ",
    "2f9ad:M26f2c 2f9ae:M455d 2f9af:M4561 2f9b0:M26fb1 2f9b1:M270d2 2f9b2:M456b 2f9b3:M8650 ",
    "2f9b4:M865c 2f9b5:M8667 2f9b6:M8669 2f9b7:M86a9 2f9b8:M8688 2f9b9:M870e 2f9ba:M86e2 ",
    "2f9bb:M8779 2f9bc:M8728 2f9bd:M876b 2f9be:M8786 2f9bf:M45d7 2f9c0:M87e1 2f9c1:M8801 ",
    "2f9c2:M45f9 2f9c3:M8860 2f9c4:M8863 2f9c5:M27667 2f9c6:M88d7 2f9c7:M88de 2f9c8:M4635 ",
    "2f9c9:M88fa 2f9ca:M34bb 2f9cb:M278ae 2f9cc:M27966 2f9cd:M46be 2f9ce:M46c7 2f9cf:M8aa0 ",
    "2f9d0:M8aed 2f9d1:M8b8a 2f9d2:M8c55 2f9d3:M27ca8 2f9d4:M8cab 2f9d5:M8cc1 2f9d6:M8d1b ",
    "2f9d7:M8d77 2f9d8:M27f2f 2f9d9:M20804 2f9da:M8dcb 2f9db:M8dbc 2f9dc:M8df0 2f9dd:M208de ",
    "2f9de:M8ed4 2f9df:M8f38 2f9e0:M285d2 2f9e1:M285ed 2f9e2:M9094 2f9e3:M90f1 2f9e4:M9111 ",
    "2f9e5:M2872e 2f9e6:M911b 2f9e7:M9238 2f9e8:M92d7 2f9e9:M92d8 2f9ea:M927c 2f9eb:M93f9 ",
    "2f9ec:M9415 2f9ed:M28bfa 2f9ee:M958b 2f9ef:M4995 2f9f0:M95b7 2f9f1:M28d77 2f9f2:M49e6 ",
    "2f9f3:M96c3 2f9f4:M5db2 2f9f5:M9723 2f9f6:M29145 2f9f7:M2921a 2f9f8:M4a6e 2f9f9:M4a76 ",
    "2f9fa:M97e0 2f9fb:M2940a 2f9fc:M4ab2 2f9fd:M29496 2f9fe:M980b 2fa00:M9829 2fa01:M295b6 ",
    "2fa02:M98e2 2fa03:M4b33 2fa04:M9929 2fa05:M99a7 2fa06:M99c2 2fa07:M99fe 2fa08:M4bce ",
    "2fa09:M29b30 2fa0a:M9b12 2fa0b:M9c40 2fa0c:M9cfd 2fa0d:M4cce 2fa0e:M4ced 2fa0f:M9d67 ",
    "2fa10:M2a0ce 2fa11:M4cf8 2fa12:M2a105 2fa13:M2a20e 2fa14:M2a291 2fa15:M9ebb 2fa16:M4d56 ",
    "2fa17:M9ef9 2fa18:M9efe 2fa19:M9f05 2fa1a:M9f0f 2fa1b:M9f16 2fa1c:M9f3b 2fa1d:M2a600 ",
    "2fa1e:X 30000:V 3134b:X 31350:V 3347a:X e0100:I e01f0:X"]

end Unicode

end MarketChat
