namespace ScrapeCourier.Idna.Mapping

def words : List String := [
  "A0:m20 A1-A7:v A8:m20+308 A9:v AA:m61 AB-AC:v AD:i AE:v AF:m20+304 B0-B1:v B2-B3:s32",
  "B4:m20+301 B5:m3BC B6-B7:v B8:m20+327 B9:m31 BA:m6F BB:v BC:m31+2044+34 BD:m31+2044+32",
  "BE:m33+2044+34 BF:v C0-D6:sE0 D7:v D8-DE:sF8 DF-FF:v 100:m101 101:v 102:m103 103:v 104:m105",
  "105:v 106:m107 107:v 108:m109 109:v 10A:m10B 10B:v 10C:m10D 10D:v 10E:m10F 10F:v 110:m111",
  "111:v 112:m113 113:v 114:m115 115:v 116:m117 117:v 118:m119 119:v 11A:m11B 11B:v 11C:m11D",
  "11D:v 11E:m11F 11F:v 120:m121 121:v 122:m123 123:v 124:m125 125:v 126:m127 127:v 128:m129",
  "129:v 12A:m12B 12B:v 12C:m12D 12D:v 12E:m12F 12F:v 130:m69+307 131:v 132:m69+6A 133:m69+6A",
  "134:m135 135:v 136:m137 137-138:v 139:m13A 13A:v 13B:m13C 13C:v 13D:m13E 13E:v 13F:m6C+B7",
  "140:m6C+B7 141:m142 142:v 143:m144 144:v 145:m146 146:v 147:m148 148:v 149:m2BC+6E 14A:m14B",
  "14B:v 14C:m14D 14D:v 14E:m14F 14F:v 150:m151 151:v 152:m153 153:v 154:m155 155:v 156:m157",
  "157:v 158:m159 159:v 15A:m15B 15B:v 15C:m15D 15D:v 15E:m15F 15F:v 160:m161 161:v 162:m163",
  "163:v 164:m165 165:v 166:m167 167:v 168:m169 169:v 16A:m16B 16B:v 16C:m16D 16D:v 16E:m16F",
  "16F:v 170:m171 171:v 172:m173 173:v 174:m175 175:v 176:m177 177:v 178:mFF 179:m17A 17A:v",
  "17B:m17C 17C:v 17D:m17E 17E:v 17F:m73 180:v 181:m253 182:m183 183:v 184:m185 185:v 186:m254",
  "187:m188 188:v 189-18A:s256 18B:m18C 18C-18D:v 18E:m1DD 18F:m259 190:m25B 191:m192 192:v",
  "193:m260 194:m263 195:v 196:m269 197:m268 198:m199 199-19B:v 19C:m26F 19D:m272 19E:v",
  "19F:m275 1A0:m1A1 1A1:v 1A2:m1A3 1A3:v 1A4:m1A5 1A5:v 1A6:m280 1A7:m1A8 1A8:v 1A9:m283",
  "1AA-1AB:v 1AC:m1AD 1AD:v 1AE:m288 1AF:m1B0 1B0:v 1B1-1B2:s28A 1B3:m1B4 1B4:v 1B5:m1B6 1B6:v",
  "1B7:m292 1B8:m1B9 1B9-1BB:v 1BC:m1BD 1BD-1C3:v 1C4:m64+17E 1C5:m64+17E 1C6:m64+17E",
  "1C7:m6C+6A 1C8:m6C+6A 1C9:m6C+6A 1CA:m6E+6A 1CB:m6E+6A 1CC:m6E+6A 1CD:m1CE 1CE:v 1CF:m1D0",
  "1D0:v 1D1:m1D2 1D2:v 1D3:m1D4 1D4:v 1D5:m1D6 1D6:v 1D7:m1D8 1D8:v 1D9:m1DA 1DA:v 1DB:m1DC",
  "1DC-1DD:v 1DE:m1DF 1DF:v 1E0:m1E1 1E1:v 1E2:m1E3 1E3:v 1E4:m1E5 1E5:v 1E6:m1E7 1E7:v",
  "1E8:m1E9 1E9:v 1EA:m1EB 1EB:v 1EC:m1ED 1ED:v 1EE:m1EF 1EF-1F0:v 1F1:m64+7A 1F2:m64+7A",
  "1F3:m64+7A 1F4:m1F5 1F5:v 1F6:m195 1F7:m1BF 1F8:m1F9 1F9:v 1FA:m1FB 1FB:v 1FC:m1FD 1FD:v",
  "1FE:m1FF 1FF:v 200:m201 201:v 202:m203 203:v 204:m205 205:v 206:m207 207:v 208:m209 209:v",
  "20A:m20B 20B:v 20C:m20D 20D:v 20E:m20F 20F:v 210:m211 211:v 212:m213 213:v 214:m215 215:v",
  "216:m217 217:v 218:m219 219:v 21A:m21B 21B:v 21C:m21D 21D:v 21E:m21F 21F:v 220:m19E 221:v",
  "222:m223 223:v 224:m225 225:v 226:m227 227:v 228:m229 229:v 22A:m22B 22B:v 22C:m22D 22D:v",
  "22E:m22F 22F:v 230:m231 231:v 232:m233 233-239:v 23A:m2C65 23B:m23C 23C:v 23D:m19A 23E:m2C66",
  "23F-240:v 241:m242 242:v 243:m180 244:m289 245:m28C 246:m247 247:v 248:m249 249:v 24A:m24B",
  "24B:v 24C:m24D 24D:v 24E:m24F 24F-2AF:v 2B0:m68 2B1:m266 2B2:m6A 2B3:m72 2B4:m279 2B5:m27B",
  "2B6:m281 2B7:m77 2B8:m79 2B9-2D7:v 2D8:m20+306 2D9:m20+307 2DA:m20+30A 2DB:m20+328",
  "2DC:m20+303 2DD:m20+30B 2DE-2DF:v 2E0:m263 2E1:m6C 2E2:m73 2E3:m78 2E4:m295 2E5-33F:v",
  "340-341:s300 342:v 343:m313 344:m308+301 345:m3B9 346-34E:v 34F:i 350-36F:v 370:m371 371:v",
  "372:m373 373:v 374:m2B9 375:v 376:m377 377:v 37A:m20+3B9 37B-37D:v 37E:m3B 37F:m3F3",
  "384:m20+301 385:m20+308+301 386:m3AC 387:mB7 388-38A:s3AD 38C:m3CC 38E-38F:s3CD 390:v",
  "391-3A1:s3B1 3A3-3AB:s3C3 3AC-3CE:v 3CF:m3D7 3D0:m3B2 3D1:m3B8 3D2:m3C5 3D3:m3CD 3D4:m3CB",
  "3D5:m3C6 3D6:m3C0 3D7:v 3D8:m3D9 3D9:v 3DA:m3DB 3DB:v 3DC:m3DD 3DD:v 3DE:m3DF 3DF:v 3E0:m3E1",
  "3E1:v 3E2:m3E3 3E3:v 3E4:m3E5 3E5:v 3E6:m3E7 3E7:v 3E8:m3E9 3E9:v 3EA:m3EB 3EB:v 3EC:m3ED",
  "3ED:v 3EE:m3EF 3EF:v 3F0:m3BA 3F1:m3C1 3F2:m3C3 3F3:v 3F4:m3B8 3F5:m3B5 3F6:v 3F7:m3F8 3F8:v",
  "3F9:m3C3 3FA:m3FB 3FB-3FC:v 3FD-3FF:s37B 400-40F:s450 410-42F:s430 430-45F:v 460:m461 461:v",
  "462:m463 463:v 464:m465 465:v 466:m467 467:v 468:m469 469:v 46A:m46B 46B:v 46C:m46D 46D:v",
  "46E:m46F 46F:v 470:m471 471:v 472:m473 473:v 474:m475 475:v 476:m477 477:v 478:m479 479:v",
  "47A:m47B 47B:v 47C:m47D 47D:v 47E:m47F 47F:v 480:m481 481-489:v 48A:m48B 48B:v 48C:m48D",
  "48D:v 48E:m48F 48F:v 490:m491 491:v 492:m493 493:v 494:m495 495:v 496:m497 497:v 498:m499",
  "499:v 49A:m49B 49B:v 49C:m49D 49D:v 49E:m49F 49F:v 4A0:m4A1 4A1:v 4A2:m4A3 4A3:v 4A4:m4A5",
  "4A5:v 4A6:m4A7 4A7:v 4A8:m4A9 4A9:v 4AA:m4AB 4AB:v 4AC:m4AD 4AD:v 4AE:m4AF 4AF:v 4B0:m4B1",
  "4B1:v 4B2:m4B3 4B3:v 4B4:m4B5 4B5:v 4B6:m4B7 4B7:v 4B8:m4B9 4B9:v 4BA:m4BB 4BB:v 4BC:m4BD",
  "4BD:v 4BE:m4BF 4BF:v 4C0:m4CF 4C1:m4C2 4C2:v 4C3:m4C4 4C4:v 4C5:m4C6 4C6:v 4C7:m4C8 4C8:v",
  "4C9:m4CA 4CA:v 4CB:m4CC 4CC:v 4CD:m4CE 4CE-4CF:v 4D0:m4D1 4D1:v 4D2:m4D3 4D3:v 4D4:m4D5",
  "4D5:v 4D6:m4D7 4D7:v 4D8:m4D9 4D9:v 4DA:m4DB 4DB:v 4DC:m4DD 4DD:v 4DE:m4DF 4DF:v 4E0:m4E1",
  "4E1:v 4E2:m4E3 4E3:v 4E4:m4E5 4E5:v 4E6:m4E7 4E7:v 4E8:m4E9 4E9:v 4EA:m4EB 4EB:v 4EC:m4ED",
  "4ED:v 4EE:m4EF 4EF:v 4F0:m4F1 4F1:v 4F2:m4F3 4F3:v 4F4:m4F5 4F5:v 4F6:m4F7 4F7:v 4F8:m4F9",
  "4F9:v 4FA:m4FB 4FB:v 4FC:m4FD 4FD:v 4FE:m4FF 4FF:v 500:m501 501:v 502:m503 503:v 504:m505",
  "505:v 506:m507 507:v 508:m509 509:v 50A:m50B 50B:v 50C:m50D 50D:v 50E:m50F 50F:v 510:m511",
  "511:v 512:m513 513:v 514:m515 515:v 516:m517 517:v 518:m519 519:v 51A:m51B 51B:v 51C:m51D",
  "51D:v 51E:m51F 51F:v 520:m521 521:v 522:m523 523:v 524:m525 525:v 526:m527 527:v 528:m529",
  "529:v 52A:m52B 52B:v 52C:m52D 52D:v 52E:m52F 52F:v 531-556:s561 559-586:v 587:m565+582",
  "588-58A:v 58D-58F:v 591-5C7:v 5D0-5EA:v 5EF-5F4:v 606-61B:v 61D-674:v 675:m627+674",
  "676:m648+674 677:m6C7+674 678:m64A+674 679-6DC:v 6DE-70D:v 710-74A:v 74D-7B1:v 7C0-7FA:v",
  "7FD-82D:v 830-83E:v 840-85B:v 85E:v 860-86A:v 870-88F:v 897-8E1:v 8E3-957:v 958:m915+93C",
  "959:m916+93C 95A:m917+93C 95B:m91C+93C 95C:m921+93C 95D:m922+93C 95E:m92B+93C 95F:m92F+93C",
  "960-983:v 985-98C:v 98F-990:v 993-9A8:v 9AA-9B0:v 9B2:v 9B6-9B9:v 9BC-9C4:v 9C7-9C8:v",
  "9CB-9CE:v 9D7:v 9DC:m9A1+9BC 9DD:m9A2+9BC 9DF:m9AF+9BC 9E0-9E3:v 9E6-9FE:v A01-A03:v",
  "A05-A0A:v A0F-A10:v A13-A28:v A2A-A30:v A32:v A33:mA32+A3C A35:v A36:mA38+A3C A38-A39:v",
  "A3C:v A3E-A42:v A47-A48:v A4B-A4D:v A51:v A59:mA16+A3C A5A:mA17+A3C A5B:mA1C+A3C A5C:v",
  "A5E:mA2B+A3C A66-A76:v A81-A83:v A85-A8D:v A8F-A91:v A93-AA8:v AAA-AB0:v AB2-AB3:v AB5-AB9:v",
  "ABC-AC5:v AC7-AC9:v ACB-ACD:v AD0:v AE0-AE3:v AE6-AF1:v AF9-AFF:v B01-B03:v B05-B0C:v",
  "B0F-B10:v B13-B28:v B2A-B30:v B32-B33:v B35-B39:v B3C-B44:v B47-B48:v B4B-B4D:v B55-B57:v",
  "B5C:mB21+B3C B5D:mB22+B3C B5F-B63:v B66-B77:v B82-B83:v B85-B8A:v B8E-B90:v B92-B95:v",
  "B99-B9A:v B9C:v B9E-B9F:v BA3-BA4:v BA8-BAA:v BAE-BB9:v BBE-BC2:v BC6-BC8:v BCA-BCD:v BD0:v",
  "BD7:v BE6-BFA:v C00-C0C:v C0E-C10:v C12-C28:v C2A-C39:v C3C-C44:v C46-C48:v C4A-C4D:v",
  "C55-C56:v C58-C5A:v C5C-C5D:v C60-C63:v C66-C6F:v C77-C8C:v C8E-C90:v C92-CA8:v CAA-CB3:v",
  "CB5-CB9:v CBC-CC4:v CC6-CC8:v CCA-CCD:v CD5-CD6:v CDC-CDE:v CE0-CE3:v CE6-CEF:v CF1-CF3:v",
  "D00-D0C:v D0E-D10:v D12-D44:v D46-D48:v D4A-D4F:v D54-D63:v D66-D7F:v D81-D83:v D85-D96:v",
  "D9A-DB1:v DB3-DBB:v DBD:v DC0-DC6:v DCA:v DCF-DD4:v DD6:v DD8-DDF:v DE6-DEF:v DF2-DF4:v",
  "E01-E32:v E33:mE4D+E32 E34-E3A:v E3F-E5B:v E81-E82:v E84:v E86-E8A:v E8C-EA3:v EA5:v",
  "EA7-EB2:v EB3:mECD+EB2 EB4-EBD:v EC0-EC4:v EC6:v EC8-ECE:v ED0-ED9:v EDC:mEAB+E99",
  "EDD:mEAB+EA1 EDE-EDF:v F00-F0B:v F0C:mF0B F0D-F42:v F43:mF42+FB7 F44-F47:v F49-F4C:v",
  "F4D:mF4C+FB7 F4E-F51:v F52:mF51+FB7 F53-F56:v F57:mF56+FB7 F58-F5B:v F5C:mF5B+FB7 F5D-F68:v",
  "F69:mF40+FB5 F6A-F6C:v F71-F72:v F73:mF71+F72 F74:v F75:mF71+F74 F76:mFB2+F80",
  "F77:mFB2+F71+F80 F78:mFB3+F80 F79:mFB3+F71+F80 F7A-F80:v F81:mF71+F80 F82-F92:v F93:mF92+FB7",
  "F94-F97:v F99-F9C:v F9D:mF9C+FB7 F9E-FA1:v FA2:mFA1+FB7 FA3-FA6:v FA7:mFA6+FB7 FA8-FAB:v",
  "FAC:mFAB+FB7 FAD-FB8:v FB9:mF90+FB5 FBA-FBC:v FBE-FCC:v FCE-FDA:v 1000-109F:v",
  "10A0-10C5:s2D00 10C7:m2D27 10CD:m2D2D 10D0-10FB:v 10FC:m10DC 10FD-115E:v 115F-1160:i",
  "1161-1248:v 124A-124D:v 1250-1256:v 1258:v 125A-125D:v 1260-1288:v 128A-128D:v 1290-12B0:v",
  "12B2-12B5:v 12B8-12BE:v 12C0:v 12C2-12C5:v 12C8-12D6:v 12D8-1310:v 1312-1315:v 1318-135A:v",
  "135D-137C:v 1380-1399:v 13A0-13F5:v 13F8-13FD:s13F0 1400-167F:v 1681-169C:v 16A0-16F8:v",
  "1700-1715:v 171F-1736:v 1740-1753:v 1760-176C:v 176E-1770:v 1772-1773:v 1780-17B3:v",
  "17B4-17B5:i 17B6-17DD:v 17E0-17E9:v 17F0-17F9:v 1800-180A:v 180B-180F:i 1810-1819:v",
  "1820-1878:v 1880-18AA:v 18B0-18F5:v 1900-191E:v 1920-192B:v 1930-193B:v 1940:v 1944-196D:v",
  "1970-1974:v 1980-19AB:v 19B0-19C9:v 19D0-19DA:v 19DE-1A1B:v 1A1E-1A5E:v 1A60-1A7C:v",
  "1A7F-1A89:v 1A90-1A99:v 1AA0-1AAD:v 1AB0-1ADD:v 1AE0-1AEB:v 1B00-1B4C:v 1B4E-1BF3:v",
  "1BFC-1C37:v 1C3B-1C49:v 1C4D-1C7F:v 1C80:m432 1C81:m434 1C82:m43E 1C83-1C84:s441 1C85:m442",
  "1C86:m44A 1C87:m463 1C88:mA64B 1C89:m1C8A 1C8A:v 1C90-1CBA:s10D0 1CBD-1CBF:s10FD 1CC0-1CC7:v",
  "1CD0-1CFA:v 1D00-1D2B:v 1D2C:m61 1D2D:mE6 1D2E:m62 1D2F:v 1D30-1D31:s64 1D32:m1DD",
  "1D33-1D3A:s67 1D3B:v 1D3C:m6F 1D3D:m223 1D3E:m70 1D3F:m72 1D40-1D41:s74 1D42:m77 1D43:m61",
  "1D44-1D45:s250 1D46:m1D02 1D47:m62 1D48-1D49:s64 1D4A:m259 1D4B-1D4C:s25B 1D4D:m67 1D4E:v",
  "1D4F:m6B 1D50:m6D 1D51:m14B 1D52:m6F 1D53:m254 1D54-1D55:s1D16 1D56:m70 1D57-1D58:s74",
  "1D59:m1D1D 1D5A:m26F 1D5B:m76 1D5C:m1D25 1D5D-1D5F:s3B2 1D60-1D61:s3C6 1D62:m69 1D63:m72",
  "1D64-1D65:s75 1D66-1D67:s3B2 1D68:m3C1 1D69-1D6A:s3C6 1D6B-1D77:v 1D78:m43D 1D79-1D9A:v",
  "1D9B:m252 1D9C:m63 1D9D:m255 1D9E:mF0 1D9F:m25C 1DA0:m66 1DA1:m25F 1DA2:m261 1DA3:m265",
  "1DA4-1DA6:s268 1DA7:m1D7B 1DA8:m29D 1DA9:m26D 1DAA:m1D85 1DAB:m29F 1DAC:m271 1DAD:m270",
  "1DAE-1DB1:s272 1DB2:m278 1DB3-1DB4:s282 1DB5:m1AB 1DB6-1DB7:s289 1DB8:m1D1C 1DB9-1DBA:s28B",
  "1DBB:m7A 1DBC-1DBE:s290 1DBF:m3B8 1DC0-1DFF:v 1E00:m1E01 1E01:v 1E02:m1E03 1E03:v 1E04:m1E05",
  "1E05:v 1E06:m1E07 1E07:v 1E08:m1E09 1E09:v 1E0A:m1E0B 1E0B:v 1E0C:m1E0D 1E0D:v 1E0E:m1E0F",
  "1E0F:v 1E10:m1E11 1E11:v 1E12:m1E13 1E13:v 1E14:m1E15 1E15:v 1E16:m1E17 1E17:v 1E18:m1E19",
  "1E19:v 1E1A:m1E1B 1E1B:v 1E1C:m1E1D 1E1D:v 1E1E:m1E1F 1E1F:v 1E20:m1E21 1E21:v 1E22:m1E23",
  "1E23:v 1E24:m1E25 1E25:v 1E26:m1E27 1E27:v 1E28:m1E29 1E29:v 1E2A:m1E2B 1E2B:v 1E2C:m1E2D",
  "1E2D:v 1E2E:m1E2F 1E2F:v 1E30:m1E31 1E31:v 1E32:m1E33 1E33:v 1E34:m1E35 1E35:v 1E36:m1E37",
  "1E37:v 1E38:m1E39 1E39:v 1E3A:m1E3B 1E3B:v 1E3C:m1E3D 1E3D:v 1E3E:m1E3F 1E3F:v 1E40:m1E41",
  "1E41:v 1E42:m1E43 1E43:v 1E44:m1E45 1E45:v 1E46:m1E47 1E47:v 1E48:m1E49 1E49:v 1E4A:m1E4B",
  "1E4B:v 1E4C:m1E4D 1E4D:v 1E4E:m1E4F 1E4F:v 1E50:m1E51 1E51:v 1E52:m1E53 1E53:v 1E54:m1E55",
  "1E55:v 1E56:m1E57 1E57:v 1E58:m1E59 1E59:v 1E5A:m1E5B 1E5B:v 1E5C:m1E5D 1E5D:v 1E5E:m1E5F",
  "1E5F:v 1E60:m1E61 1E61:v 1E62:m1E63 1E63:v 1E64:m1E65 1E65:v 1E66:m1E67 1E67:v 1E68:m1E69",
  "1E69:v 1E6A:m1E6B 1E6B:v 1E6C:m1E6D 1E6D:v 1E6E:m1E6F 1E6F:v 1E70:m1E71 1E71:v 1E72:m1E73",
  "1E73:v 1E74:m1E75 1E75:v 1E76:m1E77 1E77:v 1E78:m1E79 1E79:v 1E7A:m1E7B 1E7B:v 1E7C:m1E7D",
  "1E7D:v 1E7E:m1E7F 1E7F:v 1E80:m1E81 1E81:v 1E82:m1E83 1E83:v 1E84:m1E85 1E85:v 1E86:m1E87",
  "1E87:v 1E88:m1E89 1E89:v 1E8A:m1E8B 1E8B:v 1E8C:m1E8D 1E8D:v 1E8E:m1E8F 1E8F:v 1E90:m1E91",
  "1E91:v 1E92:m1E93 1E93:v 1E94:m1E95 1E95-1E99:v 1E9A:m61+2BE 1E9B:m1E61 1E9C-1E9D:v 1E9E:mDF",
  "1E9F:v 1EA0:m1EA1 1EA1:v 1EA2:m1EA3 1EA3:v 1EA4:m1EA5 1EA5:v 1EA6:m1EA7 1EA7:v 1EA8:m1EA9",
  "1EA9:v 1EAA:m1EAB 1EAB:v 1EAC:m1EAD 1EAD:v 1EAE:m1EAF 1EAF:v 1EB0:m1EB1 1EB1:v 1EB2:m1EB3",
  "1EB3:v 1EB4:m1EB5 1EB5:v 1EB6:m1EB7 1EB7:v 1EB8:m1EB9 1EB9:v 1EBA:m1EBB 1EBB:v 1EBC:m1EBD",
  "1EBD:v 1EBE:m1EBF 1EBF:v 1EC0:m1EC1 1EC1:v 1EC2:m1EC3 1EC3:v 1EC4:m1EC5 1EC5:v 1EC6:m1EC7",
  "1EC7:v 1EC8:m1EC9 1EC9:v 1ECA:m1ECB 1ECB:v 1ECC:m1ECD 1ECD:v 1ECE:m1ECF 1ECF:v 1ED0:m1ED1",
  "1ED1:v 1ED2:m1ED3 1ED3:v 1ED4:m1ED5 1ED5:v 1ED6:m1ED7 1ED7:v 1ED8:m1ED9 1ED9:v 1EDA:m1EDB",
  "1EDB:v 1EDC:m1EDD 1EDD:v 1EDE:m1EDF 1EDF:v 1EE0:m1EE1 1EE1:v 1EE2:m1EE3 1EE3:v 1EE4:m1EE5",
  "1EE5:v 1EE6:m1EE7 1EE7:v 1EE8:m1EE9 1EE9:v 1EEA:m1EEB 1EEB:v 1EEC:m1EED 1EED:v 1EEE:m1EEF",
  "1EEF:v 1EF0:m1EF1 1EF1:v 1EF2:m1EF3 1EF3:v 1EF4:m1EF5 1EF5:v 1EF6:m1EF7 1EF7:v 1EF8:m1EF9",
  "1EF9:v 1EFA:m1EFB 1EFB:v 1EFC:m1EFD 1EFD:v 1EFE:m1EFF 1EFF-1F07:v 1F08-1F0F:s1F00",
  "1F10-1F15:v 1F18-1F1D:s1F10 1F20-1F27:v 1F28-1F2F:s1F20 1F30-1F37:v 1F38-1F3F:s1F30",
  "1F40-1F45:v 1F48-1F4D:s1F40 1F50-1F57:v 1F59:m1F51 1F5B:m1F53 1F5D:m1F55 1F5F:m1F57",
  "1F60-1F67:v 1F68-1F6F:s1F60 1F70:v 1F71:m3AC 1F72:v 1F73:m3AD 1F74:v 1F75:m3AE 1F76:v",
  "1F77:m3AF 1F78:v 1F79:m3CC 1F7A:v 1F7B:m3CD 1F7C:v 1F7D:m3CE 1F80:m1F00+3B9 1F81:m1F01+3B9",
  "1F82:m1F02+3B9 1F83:m1F03+3B9 1F84:m1F04+3B9 1F85:m1F05+3B9 1F86:m1F06+3B9 1F87:m1F07+3B9",
  "1F88:m1F00+3B9 1F89:m1F01+3B9 1F8A:m1F02+3B9 1F8B:m1F03+3B9 1F8C:m1F04+3B9 1F8D:m1F05+3B9",
  "1F8E:m1F06+3B9 1F8F:m1F07+3B9 1F90:m1F20+3B9 1F91:m1F21+3B9 1F92:m1F22+3B9 1F93:m1F23+3B9",
  "1F94:m1F24+3B9 1F95:m1F25+3B9 1F96:m1F26+3B9 1F97:m1F27+3B9 1F98:m1F20+3B9 1F99:m1F21+3B9",
  "1F9A:m1F22+3B9 1F9B:m1F23+3B9 1F9C:m1F24+3B9 1F9D:m1F25+3B9 1F9E:m1F26+3B9 1F9F:m1F27+3B9",
  "1FA0:m1F60+3B9 1FA1:m1F61+3B9 1FA2:m1F62+3B9 1FA3:m1F63+3B9 1FA4:m1F64+3B9 1FA5:m1F65+3B9",
  "1FA6:m1F66+3B9 1FA7:m1F67+3B9 1FA8:m1F60+3B9 1FA9:m1F61+3B9 1FAA:m1F62+3B9 1FAB:m1F63+3B9",
  "1FAC:m1F64+3B9 1FAD:m1F65+3B9 1FAE:m1F66+3B9 1FAF:m1F67+3B9 1FB0-1FB1:v 1FB2:m1F70+3B9",
  "1FB3:m3B1+3B9 1FB4:m3AC+3B9 1FB6:v 1FB7:m1FB6+3B9 1FB8-1FB9:s1FB0 1FBA:m1F70 1FBB:m3AC",
  "1FBC:m3B1+3B9 1FBD:m20+313 1FBE:m3B9 1FBF:m20+313 1FC0:m20+342 1FC1:m20+308+342",
  "1FC2:m1F74+3B9 1FC3:m3B7+3B9 1FC4:m3AE+3B9 1FC6:v 1FC7:m1FC6+3B9 1FC8:m1F72 1FC9:m3AD",
  "1FCA:m1F74 1FCB:m3AE 1FCC:m3B7+3B9 1FCD:m20+313+300 1FCE:m20+313+301 1FCF:m20+313+342",
  "1FD0-1FD2:v 1FD3:m390 1FD6-1FD7:v 1FD8-1FD9:s1FD0 1FDA:m1F76 1FDB:m3AF 1FDD:m20+314+300",
  "1FDE:m20+314+301 1FDF:m20+314+342 1FE0-1FE2:v 1FE3:m3B0 1FE4-1FE7:v 1FE8-1FE9:s1FE0",
  "1FEA:m1F7A 1FEB:m3CD 1FEC:m1FE5 1FED:m20+308+300 1FEE:m20+308+301 1FEF:m60 1FF2:m1F7C+3B9",
  "1FF3:m3C9+3B9 1FF4:m3CE+3B9 1FF6:v 1FF7:m1FF6+3B9 1FF8:m1F78 1FF9:m3CC 1FFA:m1F7C 1FFB:m3CE",
  "1FFC:m3C9+3B9 1FFD:m20+301 1FFE:m20+314 2000:m20 2001:m20 2002:m20 2003:m20 2004:m20",
  "2005:m20 2006:m20 2007:m20 2008:m20 2009:m20 200A:m20 200B:i 200C-200D:v 2010:v 2011:m2010",
  "2012-2016:v 2017:m20+333 2018-2023:v 2027:v 202F:m20 2030-2032:v 2033:m2032+2032",
  "2034:m2032+2032+2032 2035:v 2036:m2035+2035 2037:m2035+2035+2035 2038-203B:v 203C:m21+21",
  "203D:v 203E:m20+305 203F-2046:v 2047:m3F+3F 2048:m3F+21 2049:m21+3F 204A-2056:v",
  "2057:m2032+2032+2032+2032 2058-205E:v 205F:m20 2060-2064:i 206A-206F:i 2070:m30 2071:m69",
  "2074-2079:s34 207A:m2B 207B:m2212 207C:m3D 207D-207E:s28 207F:m6E 2080-2089:s30 208A:m2B",
  "208B:m2212 208C:m3D 208D-208E:s28 2090:m61 2091:m65 2092:m6F 2093:m78 2094:m259 2095:m68",
  "2096-2099:s6B 209A:m70 209B-209C:s73 20A0-20A7:v 20A8:m72+73 20A9-20C1:v 20D0-20F0:v",
  "2100:m61+2F+63 2101:m61+2F+73 2102:m63 2103:mB0+63 2104:v 2105:m63+2F+6F 2106:m63+2F+75",
  "2107:m25B 2108:v 2109:mB0+66 210A-210B:s67 210C:m68 210D:m68 210E:m68 210F:m127 2110:m69",
  "2111:m69 2112:m6C 2113:m6C 2114:v 2115:m6E 2116:m6E+6F 2117-2118:v 2119-211B:s70 211C:m72",
  "211D:m72 211E-211F:v 2120:m73+6D 2121:m74+65+6C 2122:m74+6D 2123:v 2124:m7A 2125:v 2126:m3C9",
  "2127:v 2128:m7A 2129:v 212A:m6B 212B:mE5 212C-212D:s62 212E:v 212F:m65 2130-2131:s65",
  "2132:m214E 2133:m6D 2134:m6F 2135-2138:s5D0 2139:m69 213A:v 213B:m66+61+78 213C:m3C0",
  "213D:m3B3 213E:m3B3 213F:m3C0 2140:m2211 2141-2144:v 2145:m64 2146-2147:s64 2148-2149:s69",
  "214A-214F:v 2150:m31+2044+37 2151:m31+2044+39 2152:m31+2044+31+30 2153:m31+2044+33",
  "2154:m32+2044+33 2155:m31+2044+35 2156:m32+2044+35 2157:m33+2044+35 2158:m34+2044+35",
  "2159:m31+2044+36 215A:m35+2044+36 215B:m31+2044+38 215C:m33+2044+38 215D:m35+2044+38",
  "215E:m37+2044+38 215F:m31+2044 2160:m69 2161:m69+69 2162:m69+69+69 2163:m69+76 2164:m76",
  "2165:m76+69 2166:m76+69+69 2167:m76+69+69+69 2168:m69+78 2169:m78 216A:m78+69 216B:m78+69+69",
  "216C:m6C 216D-216E:s63 216F:m6D 2170:m69 2171:m69+69 2172:m69+69+69 2173:m69+76 2174:m76",
  "2175:m76+69 2176:m76+69+69 2177:m76+69+69+69 2178:m69+78 2179:m78 217A:m78+69 217B:m78+69+69",
  "217C:m6C 217D-217E:s63 217F:m6D 2180-2182:v 2183:m2184 2184-2188:v 2189:m30+2044+33",
  "218A-218B:v 2190-222B:v 222C:m222B+222B 222D:m222B+222B+222B 222E:v 222F:m222E+222E",
  "2230:m222E+222E+222E 2231-2328:v 2329-232A:s3008 232B-2429:v 2440-244A:v 2460-2468:s31",
  "2469:m31+30 246A:m31+31 246B:m31+32 246C:m31+33 246D:m31+34 246E:m31+35 246F:m31+36",
  "2470:m31+37 2471:m31+38 2472:m31+39 2473:m32+30 2474:m28+31+29 2475:m28+32+29 2476:m28+33+29",
  "2477:m28+34+29 2478:m28+35+29 2479:m28+36+29 247A:m28+37+29 247B:m28+38+29 247C:m28+39+29",
  "247D:m28+31+30+29 247E:m28+31+31+29 247F:m28+31+32+29 2480:m28+31+33+29 2481:m28+31+34+29",
  "2482:m28+31+35+29 2483:m28+31+36+29 2484:m28+31+37+29 2485:m28+31+38+29 2486:m28+31+39+29",
  "2487:m28+32+30+29 249C:m28+61+29 249D:m28+62+29 249E:m28+63+29 249F:m28+64+29 24A0:m28+65+29",
  "24A1:m28+66+29 24A2:m28+67+29 24A3:m28+68+29 24A4:m28+69+29 24A5:m28+6A+29 24A6:m28+6B+29",
  "24A7:m28+6C+29 24A8:m28+6D+29 24A9:m28+6E+29 24AA:m28+6F+29 24AB:m28+70+29 24AC:m28+71+29",
  "24AD:m28+72+29 24AE:m28+73+29 24AF:m28+74+29 24B0:m28+75+29 24B1:m28+76+29 24B2:m28+77+29",
  "24B3:m28+78+29 24B4:m28+79+29 24B5:m28+7A+29 24B6-24CF:s61 24D0-24E9:s61 24EA:m30",
  "24EB-2A0B:v 2A0C:m222B+222B+222B+222B 2A0D-2A73:v 2A74:m3A+3A+3D 2A75:m3D+3D 2A76:m3D+3D+3D",
  "2A77-2ADB:v 2ADC:m2ADD+338 2ADD-2B73:v 2B76-2BFF:v 2C00-2C2F:s2C30 2C30-2C5F:v 2C60:m2C61",
  "2C61:v 2C62:m26B 2C63:m1D7D 2C64:m27D 2C65-2C66:v 2C67:m2C68 2C68:v 2C69:m2C6A 2C6A:v",
  "2C6B:m2C6C 2C6C:v 2C6D:m251 2C6E:m271 2C6F:m250 2C70:m252 2C71:v 2C72:m2C73 2C73-2C74:v",
  "2C75:m2C76 2C76-2C7B:v 2C7C:m6A 2C7D:m76 2C7E-2C7F:s23F 2C80:m2C81 2C81:v 2C82:m2C83 2C83:v",
  "2C84:m2C85 2C85:v 2C86:m2C87 2C87:v 2C88:m2C89 2C89:v 2C8A:m2C8B 2C8B:v 2C8C:m2C8D 2C8D:v",
  "2C8E:m2C8F 2C8F:v 2C90:m2C91 2C91:v 2C92:m2C93 2C93:v 2C94:m2C95 2C95:v 2C96:m2C97 2C97:v",
  "2C98:m2C99 2C99:v 2C9A:m2C9B 2C9B:v 2C9C:m2C9D 2C9D:v 2C9E:m2C9F 2C9F:v 2CA0:m2CA1 2CA1:v",
  "2CA2:m2CA3 2CA3:v 2CA4:m2CA5 2CA5:v 2CA6:m2CA7 2CA7:v 2CA8:m2CA9 2CA9:v 2CAA:m2CAB 2CAB:v",
  "2CAC:m2CAD 2CAD:v 2CAE:m2CAF 2CAF:v 2CB0:m2CB1 2CB1:v 2CB2:m2CB3 2CB3:v 2CB4:m2CB5 2CB5:v",
  "2CB6:m2CB7 2CB7:v 2CB8:m2CB9 2CB9:v 2CBA:m2CBB 2CBB:v 2CBC:m2CBD 2CBD:v 2CBE:m2CBF 2CBF:v",
  "2CC0:m2CC1 2CC1:v 2CC2:m2CC3 2CC3:v 2CC4:m2CC5 2CC5:v 2CC6:m2CC7 2CC7:v 2CC8:m2CC9 2CC9:v",
  "2CCA:m2CCB 2CCB:v 2CCC:m2CCD 2CCD:v 2CCE:m2CCF 2CCF:v 2CD0:m2CD1 2CD1:v 2CD2:m2CD3 2CD3:v",
  "2CD4:m2CD5 2CD5:v 2CD6:m2CD7 2CD7:v 2CD8:m2CD9 2CD9:v 2CDA:m2CDB 2CDB:v 2CDC:m2CDD 2CDD:v",
  "2CDE:m2CDF 2CDF:v 2CE0:m2CE1 2CE1:v 2CE2:m2CE3 2CE3-2CEA:v 2CEB:m2CEC 2CEC:v 2CED:m2CEE",
  "2CEE-2CF1:v 2CF2:m2CF3 2CF3:v 2CF9-2D25:v 2D27:v 2D2D:v 2D30-2D67:v 2D6F:m2D61 2D70:v",
  "2D7F-2D96:v 2DA0-2DA6:v 2DA8-2DAE:v 2DB0-2DB6:v 2DB8-2DBE:v 2DC0-2DC6:v 2DC8-2DCE:v",
  "2DD0-2DD6:v 2DD8-2DDE:v 2DE0-2E5D:v 2E80-2E99:v 2E9B-2E9E:v 2E9F:m6BCD 2EA0-2EF2:v",
  "2EF3:m9F9F 2F00:m4E00 2F01:m4E28 2F02:m4E36 2F03:m4E3F 2F04:m4E59 2F05:m4E85 2F06:m4E8C",
  "2F07:m4EA0 2F08:m4EBA 2F09:m513F 2F0A:m5165 2F0B:m516B 2F0C:m5182 2F0D:m5196 2F0E:m51AB",
  "2F0F:m51E0 2F10:m51F5 2F11:m5200 2F12:m529B 2F13:m52F9 2F14:m5315 2F15:m531A 2F16:m5338",
  "2F17:m5341 2F18:m535C 2F19:m5369 2F1A:m5382 2F1B:m53B6 2F1C:m53C8 2F1D:m53E3 2F1E:m56D7",
  "2F1F:m571F 2F20:m58EB 2F21:m5902 2F22:m590A 2F23:m5915 2F24:m5927 2F25:m5973 2F26:m5B50",
  "2F27:m5B80 2F28:m5BF8 2F29:m5C0F 2F2A:m5C22 2F2B:m5C38 2F2C:m5C6E 2F2D:m5C71 2F2E:m5DDB",
  "2F2F:m5DE5 2F30:m5DF1 2F31:m5DFE 2F32:m5E72 2F33:m5E7A 2F34:m5E7F 2F35:m5EF4 2F36:m5EFE",
  "2F37:m5F0B 2F38:m5F13 2F39:m5F50 2F3A:m5F61 2F3B:m5F73 2F3C:m5FC3 2F3D:m6208 2F3E:m6236",
  "2F3F:m624B 2F40:m652F 2F41:m6534 2F42:m6587 2F43:m6597 2F44:m65A4 2F45:m65B9 2F46:m65E0",
  "2F47:m65E5 2F48:m66F0 2F49:m6708 2F4A:m6728 2F4B:m6B20 2F4C:m6B62 2F4D:m6B79 2F4E:m6BB3",
  "2F4F:m6BCB 2F50:m6BD4 2F51:m6BDB 2F52:m6C0F 2F53:m6C14 2F54:m6C34 2F55:m706B 2F56:m722A",
  "2F57:m7236 2F58:m723B 2F59:m723F 2F5A:m7247 2F5B:m7259 2F5C:m725B 2F5D:m72AC 2F5E:m7384",
  "2F5F:m7389 2F60:m74DC 2F61:m74E6 2F62:m7518 2F63:m751F 2F64:m7528 2F65:m7530 2F66:m758B",
  "2F67:m7592 2F68:m7676 2F69:m767D 2F6A:m76AE 2F6B:m76BF 2F6C:m76EE 2F6D:m77DB 2F6E:m77E2",
  "2F6F:m77F3 2F70:m793A 2F71:m79B8 2F72:m79BE 2F73:m7A74 2F74:m7ACB 2F75:m7AF9 2F76:m7C73",
  "2F77:m7CF8 2F78:m7F36 2F79:m7F51 2F7A:m7F8A 2F7B:m7FBD 2F7C:m8001 2F7D:m800C 2F7E:m8012",
  "2F7F:m8033 2F80:m807F 2F81:m8089 2F82:m81E3 2F83:m81EA 2F84:m81F3 2F85:m81FC 2F86:m820C",
  "2F87:m821B 2F88:m821F 2F89:m826E 2F8A:m8272 2F8B:m8278 2F8C:m864D 2F8D:m866B 2F8E:m8840",
  "2F8F:m884C 2F90:m8863 2F91:m897E 2F92:m898B 2F93:m89D2 2F94:m8A00 2F95:m8C37 2F96:m8C46",
  "2F97:m8C55 2F98:m8C78 2F99:m8C9D 2F9A:m8D64 2F9B:m8D70 2F9C:m8DB3 2F9D:m8EAB 2F9E:m8ECA",
  "2F9F:m8F9B 2FA0:m8FB0 2FA1:m8FB5 2FA2:m9091 2FA3:m9149 2FA4:m91C6 2FA5:m91CC 2FA6:m91D1",
  "2FA7:m9577 2FA8:m9580 2FA9:m961C 2FAA:m96B6 2FAB:m96B9 2FAC:m96E8 2FAD:m9751 2FAE:m975E",
  "2FAF:m9762 2FB0:m9769 2FB1:m97CB 2FB2:m97ED 2FB3:m97F3 2FB4:m9801 2FB5:m98A8 2FB6:m98DB",
  "2FB7:m98DF 2FB8:m9996 2FB9:m9999 2FBA:m99AC 2FBB:m9AA8 2FBC:m9AD8 2FBD:m9ADF 2FBE:m9B25",
  "2FBF:m9B2F 2FC0:m9B32 2FC1:m9B3C 2FC2:m9B5A 2FC3:m9CE5 2FC4:m9E75 2FC5:m9E7F 2FC6:m9EA5",
  "2FC7:m9EBB 2FC8:m9EC3 2FC9:m9ECD 2FCA:m9ED1 2FCB:m9EF9 2FCC:m9EFD 2FCD:m9F0E 2FCE:m9F13",
  "2FCF:m9F20 2FD0:m9F3B 2FD1:m9F4A 2FD2:m9F52 2FD3:m9F8D 2FD4:m9F9C 2FD5:m9FA0 3000:m20 3001:v",
  "3002:m2E 3003-3035:v 3036:m3012 3037:v 3038:m5341 3039-303A:s5344 303B-303F:v 3041-3096:v",
  "3099-309A:v 309B:m20+3099 309C:m20+309A 309D-309E:v 309F:m3088+308A 30A0-30FE:v",
  "30FF:m30B3+30C8 3105-312F:v 3131-3132:s1100 3133:m11AA 3134:m1102 3135-3136:s11AC",
  "3137-3139:s1103 313A-313F:s11B0 3140:m111A 3141-3143:s1106 3144:m1121 3145-314E:s1109",
  "314F-3163:s1161 3164:i 3165-3166:s1114 3167-3168:s11C7 3169:m11CC 316A:m11CE 316B:m11D3",
  "316C:m11D7 316D:m11D9 316E:m111C 316F:m11DD 3170:m11DF 3171-3172:s111D 3173:m1120",
  "3174-3175:s1122 3176:m1127 3177:m1129 3178-317C:s112B 317D:m1132 317E:m1136 317F:m1140",
  "3180:m1147 3181:m114C 3182-3183:s11F1 3184-3186:s1157 3187-3188:s1184 3189:m1188",
  "318A-318B:s1191 318C:m1194 318D:m119E 318E:m11A1 3190-3191:v 3192:m4E00 3193:m4E8C",
  "3194:m4E09 3195:m56DB 3196:m4E0A 3197:m4E2D 3198:m4E0B 3199:m7532 319A:m4E59 319B:m4E19",
  "319C:m4E01 319D:m5929 319E:m5730 319F:m4EBA 31A0-31E5:v 31F0-31FF:v 3200:m28+1100+29",
  "3201:m28+1102+29 3202:m28+1103+29 3203:m28+1105+29 3204:m28+1106+29 3205:m28+1107+29",
  "3206:m28+1109+29 3207:m28+110B+29 3208:m28+110C+29 3209:m28+110E+29 320A:m28+110F+29",
  "320B:m28+1110+29 320C:m28+1111+29 320D:m28+1112+29 320E:m28+AC00+29 320F:m28+B098+29",
  "3210:m28+B2E4+29 3211:m28+B77C+29 3212:m28+B9C8+29 3213:m28+BC14+29 3214:m28+C0AC+29",
  "3215:m28+C544+29 3216:m28+C790+29 3217:m28+CC28+29 3218:m28+CE74+29 3219:m28+D0C0+29",
  "321A:m28+D30C+29 321B:m28+D558+29 321C:m28+C8FC+29 321D:m28+C624+C804+29",
  "321E:m28+C624+D6C4+29 3220:m28+4E00+29 3221:m28+4E8C+29 3222:m28+4E09+29 3223:m28+56DB+29",
  "3224:m28+4E94+29 3225:m28+516D+29 3226:m28+4E03+29 3227:m28+516B+29 3228:m28+4E5D+29",
  "3229:m28+5341+29 322A:m28+6708+29 322B:m28+706B+29 322C:m28+6C34+29 322D:m28+6728+29",
  "322E:m28+91D1+29 322F:m28+571F+29 3230:m28+65E5+29 3231:m28+682A+29 3232:m28+6709+29",
  "3233:m28+793E+29 3234:m28+540D+29 3235:m28+7279+29 3236:m28+8CA1+29 3237:m28+795D+29",
  "3238:m28+52B4+29 3239:m28+4EE3+29 323A:m28+547C+29 323B:m28+5B66+29 323C:m28+76E3+29",
  "323D:m28+4F01+29 323E:m28+8CC7+29 323F:m28+5354+29 3240:m28+796D+29 3241:m28+4F11+29",
  "3242:m28+81EA+29 3243:m28+81F3+29 3244:m554F 3245:m5E7C 3246:m6587 3247:m7B8F 3248-324F:v",
  "3250:m70+74+65 3251:m32+31 3252:m32+32 3253:m32+33 3254:m32+34 3255:m32+35 3256:m32+36",
  "3257:m32+37 3258:m32+38 3259:m32+39 325A:m33+30 325B:m33+31 325C:m33+32 325D:m33+33",
  "325E:m33+34 325F:m33+35 3260:m1100 3261-3262:s1102 3263-3265:s1105 3266:m1109",
  "3267-3268:s110B 3269-326D:s110E 326E:mAC00 326F:mB098 3270:mB2E4 3271:mB77C 3272:mB9C8",
  "3273:mBC14 3274:mC0AC 3275:mC544 3276:mC790 3277:mCC28 3278:mCE74 3279:mD0C0 327A:mD30C",
  "327B:mD558 327C:mCC38+ACE0 327D:mC8FC+C758 327E:mC6B0 327F:v 3280:m4E00 3281:m4E8C",
  "3282:m4E09 3283:m56DB 3284:m4E94 3285:m516D 3286:m4E03 3287:m516B 3288:m4E5D 3289:m5341",
  "328A:m6708 328B:m706B 328C:m6C34 328D:m6728 328E:m91D1 328F:m571F 3290:m65E5 3291:m682A",
  "3292:m6709 3293:m793E 3294:m540D 3295:m7279 3296:m8CA1 3297:m795D 3298:m52B4 3299:m79D8",
  "329A:m7537 329B:m5973 329C:m9069 329D:m512A 329E:m5370 329F:m6CE8 32A0:m9805 32A1:m4F11",
  "32A2:m5199 32A3:m6B63 32A4:m4E0A 32A5:m4E2D 32A6:m4E0B 32A7:m5DE6 32A8:m53F3 32A9:m533B",
  "32AA:m5B97 32AB:m5B66 32AC:m76E3 32AD:m4F01 32AE:m8CC7 32AF:m5354 32B0:m591C 32B1:m33+36",
  "32B2:m33+37 32B3:m33+38 32B4:m33+39 32B5:m34+30 32B6:m34+31 32B7:m34+32 32B8:m34+33",
  "32B9:m34+34 32BA:m34+35 32BB:m34+36 32BC:m34+37 32BD:m34+38 32BE:m34+39 32BF:m35+30",
  "32C0:m31+6708 32C1:m32+6708 32C2:m33+6708 32C3:m34+6708 32C4:m35+6708 32C5:m36+6708",
  "32C6:m37+6708 32C7:m38+6708 32C8:m39+6708 32C9:m31+30+6708 32CA:m31+31+6708 32CB:m31+32+6708",
  "32CC:m68+67 32CD:m65+72+67 32CE:m65+76 32CF:m6C+74+64 32D0:m30A2 32D1:m30A4 32D2:m30A6",
  "32D3:m30A8 32D4-32D5:s30AA 32D6:m30AD 32D7:m30AF 32D8:m30B1 32D9:m30B3 32DA:m30B5 32DB:m30B7",
  "32DC:m30B9 32DD:m30BB 32DE:m30BD 32DF:m30BF 32E0:m30C1 32E1:m30C4 32E2:m30C6 32E3:m30C8",
  "32E4-32E9:s30CA 32EA:m30D2 32EB:m30D5 32EC:m30D8 32ED:m30DB 32EE-32F2:s30DE 32F3:m30E4",
  "32F4:m30E6 32F5-32FA:s30E8 32FB-32FE:s30EF 32FF:m4EE4+548C 3300:m30A2+30D1+30FC+30C8",
  "3301:m30A2+30EB+30D5+30A1 3302:m30A2+30F3+30DA+30A2 3303:m30A2+30FC+30EB",
  "3304:m30A4+30CB+30F3+30B0 3305:m30A4+30F3+30C1 3306:m30A6+30A9+30F3",
  "3307:m30A8+30B9+30AF+30FC+30C9 3308:m30A8+30FC+30AB+30FC 3309:m30AA+30F3+30B9",
  "330A:m30AA+30FC+30E0 330B:m30AB+30A4+30EA 330C:m30AB+30E9+30C3+30C8",
  "330D:m30AB+30ED+30EA+30FC 330E:m30AC+30ED+30F3 330F:m30AC+30F3+30DE 3310:m30AE+30AC",
  "3311:m30AE+30CB+30FC 3312:m30AD+30E5+30EA+30FC 3313:m30AE+30EB+30C0+30FC 3314:m30AD+30ED",
  "3315:m30AD+30ED+30B0+30E9+30E0 3316:m30AD+30ED+30E1+30FC+30C8+30EB",
  "3317:m30AD+30ED+30EF+30C3+30C8 3318:m30B0+30E9+30E0 3319:m30B0+30E9+30E0+30C8+30F3",
  "331A:m30AF+30EB+30BC+30A4+30ED 331B:m30AF+30ED+30FC+30CD 331C:m30B1+30FC+30B9",
  "331D:m30B3+30EB+30CA 331E:m30B3+30FC+30DD 331F:m30B5+30A4+30AF+30EB",
  "3320:m30B5+30F3+30C1+30FC+30E0 3321:m30B7+30EA+30F3+30B0 3322:m30BB+30F3+30C1",
  "3323:m30BB+30F3+30C8 3324:m30C0+30FC+30B9 3325:m30C7+30B7 3326:m30C9+30EB 3327:m30C8+30F3",
  "3328:m30CA+30CE 3329:m30CE+30C3+30C8 332A:m30CF+30A4+30C4 332B:m30D1+30FC+30BB+30F3+30C8",
  "332C:m30D1+30FC+30C4 332D:m30D0+30FC+30EC+30EB 332E:m30D4+30A2+30B9+30C8+30EB",
  "332F:m30D4+30AF+30EB 3330:m30D4+30B3 3331:m30D3+30EB 3332:m30D5+30A1+30E9+30C3+30C9",
  "3333:m30D5+30A3+30FC+30C8 3334:m30D6+30C3+30B7+30A7+30EB 3335:m30D5+30E9+30F3",
  "3336:m30D8+30AF+30BF+30FC+30EB 3337:m30DA+30BD 3338:m30DA+30CB+30D2 3339:m30D8+30EB+30C4",
  "333A:m30DA+30F3+30B9 333B:m30DA+30FC+30B8 333C:m30D9+30FC+30BF 333D:m30DD+30A4+30F3+30C8",
  "333E:m30DC+30EB+30C8 333F:m30DB+30F3 3340:m30DD+30F3+30C9 3341:m30DB+30FC+30EB",
  "3342:m30DB+30FC+30F3 3343:m30DE+30A4+30AF+30ED 3344:m30DE+30A4+30EB 3345:m30DE+30C3+30CF",
  "3346:m30DE+30EB+30AF 3347:m30DE+30F3+30B7+30E7+30F3 3348:m30DF+30AF+30ED+30F3",
  "3349:m30DF+30EA 334A:m30DF+30EA+30D0+30FC+30EB 334B:m30E1+30AC 334C:m30E1+30AC+30C8+30F3",
  "334D:m30E1+30FC+30C8+30EB 334E:m30E4+30FC+30C9 334F:m30E4+30FC+30EB 3350:m30E6+30A2+30F3",
  "3351:m30EA+30C3+30C8+30EB 3352:m30EA+30E9 3353:m30EB+30D4+30FC 3354:m30EB+30FC+30D6+30EB",
  "3355:m30EC+30E0 3356:m30EC+30F3+30C8+30B2+30F3 3357:m30EF+30C3+30C8 3358:m30+70B9",
  "3359:m31+70B9 335A:m32+70B9 335B:m33+70B9 335C:m34+70B9 335D:m35+70B9 335E:m36+70B9",
  "335F:m37+70B9 3360:m38+70B9 3361:m39+70B9 3362:m31+30+70B9 3363:m31+31+70B9 3364:m31+32+70B9",
  "3365:m31+33+70B9 3366:m31+34+70B9 3367:m31+35+70B9 3368:m31+36+70B9 3369:m31+37+70B9",
  "336A:m31+38+70B9 336B:m31+39+70B9 336C:m32+30+70B9 336D:m32+31+70B9 336E:m32+32+70B9",
  "336F:m32+33+70B9 3370:m32+34+70B9 3371:m68+70+61 3372:m64+61 3373:m61+75 3374:m62+61+72",
  "3375:m6F+76 3376:m70+63 3377:m64+6D 3378:m64+6D+32 3379:m64+6D+33 337A:m69+75",
  "337B:m5E73+6210 337C:m662D+548C 337D:m5927+6B63 337E:m660E+6CBB 337F:m682A+5F0F+4F1A+793E",
  "3380:m70+61 3381:m6E+61 3382:m3BC+61 3383:m6D+61 3384:m6B+61 3385:m6B+62 3386:m6D+62",
  "3387:m67+62 3388:m63+61+6C 3389:m6B+63+61+6C 338A:m70+66 338B:m6E+66 338C:m3BC+66",
  "338D:m3BC+67 338E:m6D+67 338F:m6B+67 3390:m68+7A 3391:m6B+68+7A 3392:m6D+68+7A",
  "3393:m67+68+7A 3394:m74+68+7A 3395:m3BC+6C 3396:m6D+6C 3397:m64+6C 3398:m6B+6C 3399:m66+6D",
  "339A:m6E+6D 339B:m3BC+6D 339C:m6D+6D 339D:m63+6D 339E:m6B+6D 339F:m6D+6D+32 33A0:m63+6D+32",
  "33A1:m6D+32 33A2:m6B+6D+32 33A3:m6D+6D+33 33A4:m63+6D+33 33A5:m6D+33 33A6:m6B+6D+33",
  "33A7:m6D+2215+73 33A8:m6D+2215+73+32 33A9:m70+61 33AA:m6B+70+61 33AB:m6D+70+61",
  "33AC:m67+70+61 33AD:m72+61+64 33AE:m72+61+64+2215+73 33AF:m72+61+64+2215+73+32 33B0:m70+73",
  "33B1:m6E+73 33B2:m3BC+73 33B3:m6D+73 33B4:m70+76 33B5:m6E+76 33B6:m3BC+76 33B7:m6D+76",
  "33B8:m6B+76 33B9:m6D+76 33BA:m70+77 33BB:m6E+77 33BC:m3BC+77 33BD:m6D+77 33BE:m6B+77",
  "33BF:m6D+77 33C0:m6B+3C9 33C1:m6D+3C9 33C3:m62+71 33C4:m63+63 33C5:m63+64",
  "33C6:m63+2215+6B+67 33C8:m64+62 33C9:m67+79 33CA:m68+61 33CB:m68+70 33CC:m69+6E 33CD:m6B+6B",
  "33CE:m6B+6D 33CF:m6B+74 33D0:m6C+6D 33D1:m6C+6E 33D2:m6C+6F+67 33D3:m6C+78 33D4:m6D+62",
  "33D5:m6D+69+6C 33D6:m6D+6F+6C 33D7:m70+68 33D9:m70+70+6D 33DA:m70+72 33DB:m73+72 33DC:m73+76",
  "33DD:m77+62 33DE:m76+2215+6D 33DF:m61+2215+6D 33E0:m31+65E5 33E1:m32+65E5 33E2:m33+65E5",
  "33E3:m34+65E5 33E4:m35+65E5 33E5:m36+65E5 33E6:m37+65E5 33E7:m38+65E5 33E8:m39+65E5",
  "33E9:m31+30+65E5 33EA:m31+31+65E5 33EB:m31+32+65E5 33EC:m31+33+65E5 33ED:m31+34+65E5",
  "33EE:m31+35+65E5 33EF:m31+36+65E5 33F0:m31+37+65E5 33F1:m31+38+65E5 33F2:m31+39+65E5",
  "33F3:m32+30+65E5 33F4:m32+31+65E5 33F5:m32+32+65E5 33F6:m32+33+65E5 33F7:m32+34+65E5",
  "33F8:m32+35+65E5 33F9:m32+36+65E5 33FA:m32+37+65E5 33FB:m32+38+65E5 33FC:m32+39+65E5",
  "33FD:m33+30+65E5 33FE:m33+31+65E5 33FF:m67+61+6C 3400-A48C:v A490-A4C6:v A4D0-A62B:v",
  "A640:mA641 A641:v A642:mA643 A643:v A644:mA645 A645:v A646:mA647 A647:v A648:mA649 A649:v",
  "A64A:mA64B A64B:v A64C:mA64D A64D:v A64E:mA64F A64F:v A650:mA651 A651:v A652:mA653 A653:v",
  "A654:mA655 A655:v A656:mA657 A657:v A658:mA659 A659:v A65A:mA65B A65B:v A65C:mA65D A65D:v",
  "A65E:mA65F A65F:v A660:mA661 A661:v A662:mA663 A663:v A664:mA665 A665:v A666:mA667 A667:v",
  "A668:mA669 A669:v A66A:mA66B A66B:v A66C:mA66D A66D-A67F:v A680:mA681 A681:v A682:mA683",
  "A683:v A684:mA685 A685:v A686:mA687 A687:v A688:mA689 A689:v A68A:mA68B A68B:v A68C:mA68D",
  "A68D:v A68E:mA68F A68F:v A690:mA691 A691:v A692:mA693 A693:v A694:mA695 A695:v A696:mA697",
  "A697:v A698:mA699 A699:v A69A:mA69B A69B:v A69C:m44A A69D:m44C A69E-A6F7:v A700-A721:v",
  "A722:mA723 A723:v A724:mA725 A725:v A726:mA727 A727:v A728:mA729 A729:v A72A:mA72B A72B:v",
  "A72C:mA72D A72D:v A72E:mA72F A72F-A731:v A732:mA733 A733:v A734:mA735 A735:v A736:mA737",
  "A737:v A738:mA739 A739:v A73A:mA73B A73B:v A73C:mA73D A73D:v A73E:mA73F A73F:v A740:mA741",
  "A741:v A742:mA743 A743:v A744:mA745 A745:v A746:mA747 A747:v A748:mA749 A749:v A74A:mA74B",
  "A74B:v A74C:mA74D A74D:v A74E:mA74F A74F:v A750:mA751 A751:v A752:mA753 A753:v A754:mA755",
  "A755:v A756:mA757 A757:v A758:mA759 A759:v A75A:mA75B A75B:v A75C:mA75D A75D:v A75E:mA75F",
  "A75F:v A760:mA761 A761:v A762:mA763 A763:v A764:mA765 A765:v A766:mA767 A767:v A768:mA769",
  "A769:v A76A:mA76B A76B:v A76C:mA76D A76D:v A76E:mA76F A76F:v A770:mA76F A771-A778:v",
  "A779:mA77A A77A:v A77B:mA77C A77C:v A77D:m1D79 A77E:mA77F A77F:v A780:mA781 A781:v",
  "A782:mA783 A783:v A784:mA785 A785:v A786:mA787 A787-A78A:v A78B:mA78C A78C:v A78D:m265",
  "A78E-A78F:v A790:mA791 A791:v A792:mA793 A793-A795:v A796:mA797 A797:v A798:mA799 A799:v",
  "A79A:mA79B A79B:v A79C:mA79D A79D:v A79E:mA79F A79F:v A7A0:mA7A1 A7A1:v A7A2:mA7A3 A7A3:v",
  "A7A4:mA7A5 A7A5:v A7A6:mA7A7 A7A7:v A7A8:mA7A9 A7A9:v A7AA:m266 A7AB:m25C A7AC:m261",
  "A7AD:m26C A7AE:m26A A7AF:v A7B0:m29E A7B1:m287 A7B2:m29D A7B3:mAB53 A7B4:mA7B5 A7B5:v",
  "A7B6:mA7B7 A7B7:v A7B8:mA7B9 A7B9:v A7BA:mA7BB A7BB:v A7BC:mA7BD A7BD:v A7BE:mA7BF A7BF:v",
  "A7C0:mA7C1 A7C1:v A7C2:mA7C3 A7C3:v A7C4:mA794 A7C5:m282 A7C6:m1D8E A7C7:mA7C8 A7C8:v",
  "A7C9:mA7CA A7CA:v A7CB:m264 A7CC:mA7CD A7CD:v A7CE:mA7CF A7CF:v A7D0:mA7D1 A7D1:v A7D2:mA7D3",
  "A7D3:v A7D4:mA7D5 A7D5:v A7D6:mA7D7 A7D7:v A7D8:mA7D9 A7D9:v A7DA:mA7DB A7DB:v A7DC:m19B",
  "A7F1:m73 A7F2:m63 A7F3:m66 A7F4:m71 A7F5:mA7F6 A7F6-A7F7:v A7F8:m127 A7F9:m153 A7FA-A82C:v",
  "A830-A839:v A840-A877:v A880-A8C5:v A8CE-A8D9:v A8E0-A953:v A95F-A97C:v A980-A9CD:v",
  "A9CF-A9D9:v A9DE-A9FE:v AA00-AA36:v AA40-AA4D:v AA50-AA59:v AA5C-AAC2:v AADB-AAF6:v",
  "AB01-AB06:v AB09-AB0E:v AB11-AB16:v AB20-AB26:v AB28-AB2E:v AB30-AB5B:v AB5C:mA727",
  "AB5D:mAB37 AB5E:m26B AB5F:mAB52 AB60-AB68:v AB69:m28D AB6A-AB6B:v AB70-ABBF:s13A0",
  "ABC0-ABED:v ABF0-ABF9:v AC00-D7A3:v D7B0-D7C6:v D7CB-D7FB:v F900:m8C48 F901:m66F4 F902:m8ECA",
  "F903:m8CC8 F904:m6ED1 F905:m4E32 F906:m53E5 F907:m9F9C F908:m9F9C F909:m5951 F90A:m91D1",
  "F90B:m5587 F90C:m5948 F90D:m61F6 F90E:m7669 F90F:m7F85 F910:m863F F911:m87BA F912:m88F8",
  "F913:m908F F914:m6A02 F915:m6D1B F916:m70D9 F917:m73DE F918:m843D F919:m916A F91A:m99F1",
  "F91B:m4E82 F91C:m5375 F91D:m6B04 F91E:m721B F91F:m862D F920:m9E1E F921:m5D50 F922:m6FEB",
  "F923:m85CD F924:m8964 F925:m62C9 F926:m81D8 F927:m881F F928:m5ECA F929:m6717 F92A:m6D6A",
  "F92B:m72FC F92C:m90CE F92D:m4F86 F92E:m51B7 F92F:m52DE F930:m64C4 F931:m6AD3 F932:m7210",
  "F933:m76E7 F934:m8001 F935:m8606 F936:m865C F937:m8DEF F938:m9732 F939:m9B6F F93A:m9DFA",
  "F93B:m788C F93C:m797F F93D:m7DA0 F93E:m83C9 F93F:m9304 F940:m9E7F F941:m8AD6 F942:m58DF",
  "F943:m5F04 F944:m7C60 F945:m807E F946:m7262 F947:m78CA F948:m8CC2 F949:m96F7 F94A:m58D8",
  "F94B:m5C62 F94C:m6A13 F94D:m6DDA F94E:m6F0F F94F:m7D2F F950:m7E37 F951:m964B F952:m52D2",
  "F953:m808B F954:m51DC F955:m51CC F956:m7A1C F957:m7DBE F958:m83F1 F959:m9675 F95A:m8B80",
  "F95B:m62CF F95C:m6A02 F95D:m8AFE F95E:m4E39 F95F:m5BE7 F960:m6012 F961:m7387 F962:m7570",
  "F963:m5317 F964:m78FB F965:m4FBF F966:m5FA9 F967:m4E0D F968:m6CCC F969:m6578 F96A:m7D22",
  "F96B:m53C3 F96C:m585E F96D:m7701 F96E:m8449 F96F:m8AAA F970:m6BBA F971:m8FB0 F972:m6C88",
  "F973:m62FE F974:m82E5 F975:m63A0 F976:m7565 F977:m4EAE F978:m5169 F979:m51C9 F97A:m6881",
  "F97B:m7CE7 F97C:m826F F97D:m8AD2 F97E:m91CF F97F:m52F5 F980:m5442 F981:m5973 F982:m5EEC",
  "F983:m65C5 F984:m6FFE F985:m792A F986:m95AD F987:m9A6A F988:m9E97 F989:m9ECE F98A:m529B",
  "F98B:m66C6 F98C:m6B77 F98D:m8F62 F98E:m5E74 F98F:m6190 F990:m6200 F991:m649A F992:m6F23",
  "F993:m7149 F994:m7489 F995:m79CA F996:m7DF4 F997:m806F F998:m8F26 F999:m84EE F99A:m9023",
  "F99B:m934A F99C:m5217 F99D:m52A3 F99E:m54BD F99F:m70C8 F9A0:m88C2 F9A1:m8AAA F9A2:m5EC9",
  "F9A3:m5FF5 F9A4:m637B F9A5:m6BAE F9A6:m7C3E F9A7:m7375 F9A8:m4EE4 F9A9:m56F9 F9AA:m5BE7",
  "F9AB:m5DBA F9AC:m601C F9AD:m73B2 F9AE:m7469 F9AF:m7F9A F9B0:m8046 F9B1:m9234 F9B2:m96F6",
  "F9B3:m9748 F9B4:m9818 F9B5:m4F8B F9B6:m79AE F9B7:m91B4 F9B8:m96B8 F9B9:m60E1 F9BA:m4E86",
  "F9BB:m50DA F9BC:m5BEE F9BD:m5C3F F9BE:m6599 F9BF:m6A02 F9C0:m71CE F9C1:m7642 F9C2:m84FC",
  "F9C3:m907C F9C4:m9F8D F9C5:m6688 F9C6:m962E F9C7:m5289 F9C8:m677B F9C9:m67F3 F9CA:m6D41",
  "F9CB:m6E9C F9CC:m7409 F9CD:m7559 F9CE:m786B F9CF:m7D10 F9D0:m985E F9D1:m516D F9D2:m622E",
  "F9D3:m9678 F9D4:m502B F9D5:m5D19 F9D6:m6DEA F9D7:m8F2A F9D8:m5F8B F9D9:m6144 F9DA:m6817",
  "F9DB:m7387 F9DC:m9686 F9DD:m5229 F9DE:m540F F9DF:m5C65 F9E0:m6613 F9E1:m674E F9E2:m68A8",
  "F9E3:m6CE5 F9E4:m7406 F9E5:m75E2 F9E6:m7F79 F9E7:m88CF F9E8:m88E1 F9E9:m91CC F9EA:m96E2",
  "F9EB:m533F F9EC:m6EBA F9ED:m541D F9EE:m71D0 F9EF:m7498 F9F0:m85FA F9F1:m96A3 F9F2:m9C57",
  "F9F3:m9E9F F9F4:m6797 F9F5:m6DCB F9F6:m81E8 F9F7:m7ACB F9F8:m7B20 F9F9:m7C92 F9FA:m72C0",
  "F9FB:m7099 F9FC:m8B58 F9FD:m4EC0 F9FE:m8336 F9FF:m523A FA00:m5207 FA01:m5EA6 FA02:m62D3",
  "FA03:m7CD6 FA04:m5B85 FA05:m6D1E FA06:m66B4 FA07:m8F3B FA08:m884C FA09:m964D FA0A:m898B",
  "FA0B:m5ED3 FA0C:m5140 FA0D:m55C0 FA0E-FA0F:v FA10:m585A FA11:v FA12:m6674 FA13-FA14:v",
  "FA15:m51DE FA16:m732A FA17:m76CA FA18:m793C FA19:m795E FA1A:m7965 FA1B:m798F FA1C:m9756",
  "FA1D:m7CBE FA1E:m7FBD FA1F:v FA20:m8612 FA21:v FA22:m8AF8 FA23-FA24:v FA25:m9038 FA26:m90FD",
  "FA27-FA29:v FA2A:m98EF FA2B:m98FC FA2C:m9928 FA2D:m9DB4 FA2E:m90DE FA2F:m96B7 FA30:m4FAE",
  "FA31:m50E7 FA32:m514D FA33:m52C9 FA34:m52E4 FA35:m5351 FA36:m559D FA37:m5606 FA38:m5668",
  "FA39:m5840 FA3A:m58A8 FA3B:m5C64 FA3C:m5C6E FA3D:m6094 FA3E:m6168 FA3F:m618E FA40:m61F2",
  "FA41:m654F FA42:m65E2 FA43:m6691 FA44:m6885 FA45:m6D77 FA46:m6E1A FA47:m6F22 FA48:m716E",
  "FA49:m722B FA4A:m7422 FA4B:m7891 FA4C:m793E FA4D:m7949 FA4E:m7948 FA4F:m7950 FA50:m7956",
  "FA51:m795D FA52-FA53:s798D FA54:m7A40 FA55:m7A81 FA56:m7BC0 FA57:m7DF4 FA58:m7E09 FA59:m7E41",
  "FA5A:m7F72 FA5B:m8005 FA5C:m81ED FA5D:m8279 FA5E:m8279 FA5F:m8457 FA60:m8910 FA61:m8996",
  "FA62:m8B01 FA63:m8B39 FA64:m8CD3 FA65:m8D08 FA66:m8FB6 FA67:m9038 FA68:m96E3 FA69:m97FF",
  "FA6A:m983B FA6B:m6075 FA6C:m242EE FA6D:m8218 FA70:m4E26 FA71:m51B5 FA72:m5168 FA73:m4F80",
  "FA74:m5145 FA75:m5180 FA76:m52C7 FA77:m52FA FA78:m559D FA79:m5555 FA7A:m5599 FA7B:m55E2",
  "FA7C:m585A FA7D:m58B3 FA7E:m5944 FA7F:m5954 FA80:m5A62 FA81:m5B28 FA82:m5ED2 FA83:m5ED9",
  "FA84:m5F69 FA85:m5FAD FA86:m60D8 FA87:m614E FA88:m6108 FA89:m618E FA8A:m6160 FA8B:m61F2",
  "FA8C:m6234 FA8D:m63C4 FA8E:m641C FA8F:m6452 FA90:m6556 FA91:m6674 FA92:m6717 FA93:m671B",
  "FA94:m6756 FA95:m6B79 FA96:m6BBA FA97:m6D41 FA98:m6EDB FA99:m6ECB FA9A:m6F22 FA9B:m701E",
  "FA9C:m716E FA9D:m77A7 FA9E:m7235 FA9F:m72AF FAA0:m732A FAA1:m7471 FAA2:m7506 FAA3:m753B",
  "FAA4:m761D FAA5:m761F FAA6:m76CA FAA7:m76DB FAA8:m76F4 FAA9:m774A FAAA:m7740 FAAB:m78CC",
  "FAAC:m7AB1 FAAD:m7BC0 FAAE:m7C7B FAAF:m7D5B FAB0:m7DF4 FAB1:m7F3E FAB2:m8005 FAB3:m8352",
  "FAB4:m83EF FAB5:m8779 FAB6:m8941 FAB7:m8986 FAB8:m8996 FAB9:m8ABF FABA:m8AF8 FABB:m8ACB",
  "FABC:m8B01 FABD:m8AFE FABE:m8AED FABF:m8B39 FAC0:m8B8A FAC1:m8D08 FAC2:m8F38 FAC3:m9072",
  "FAC4:m9199 FAC5:m9276 FAC6:m967C FAC7:m96E3 FAC8:m9756 FAC9:m97DB FACA:m97FF FACB:m980B",
  "FACC:m983B FACD:m9B12 FACE:m9F9C FACF:m2284A FAD0:m22844 FAD1:m233D5 FAD2:m3B9D FAD3:m4018",
  "FAD4:m4039 FAD5:m25249 FAD6:m25CD0 FAD7:m27ED3 FAD8:m9F43 FAD9:m9F8E FB00:m66+66 FB01:m66+69",
  "FB02:m66+6C FB03:m66+66+69 FB04:m66+66+6C FB05:m73+74 FB06:m73+74 FB13:m574+576",
  "FB14:m574+565 FB15:m574+56B FB16:m57E+576 FB17:m574+56D FB1D:m5D9+5B4 FB1E:v FB1F:m5F2+5B7",
  "FB20:m5E2 FB21:m5D0 FB22-FB23:s5D3 FB24-FB26:s5DB FB27:m5E8 FB28:m5EA FB29:m2B FB2A:m5E9+5C1",
  "FB2B:m5E9+5C2 FB2C:m5E9+5BC+5C1 FB2D:m5E9+5BC+5C2 FB2E:m5D0+5B7 FB2F:m5D0+5B8 FB30:m5D0+5BC",
  "FB31:m5D1+5BC FB32:m5D2+5BC FB33:m5D3+5BC FB34:m5D4+5BC FB35:m5D5+5BC FB36:m5D6+5BC",
  "FB38:m5D8+5BC FB39:m5D9+5BC FB3A:m5DA+5BC FB3B:m5DB+5BC FB3C:m5DC+5BC FB3E:m5DE+5BC",
  "FB40:m5E0+5BC FB41:m5E1+5BC FB43:m5E3+5BC FB44:m5E4+5BC FB46:m5E6+5BC FB47:m5E7+5BC",
  "FB48:m5E8+5BC FB49:m5E9+5BC FB4A:m5EA+5BC FB4B:m5D5+5B9 FB4C:m5D1+5BF FB4D:m5DB+5BF",
  "FB4E:m5E4+5BF FB4F:m5D0+5DC FB50:m671 FB51:m671 FB52:m67B FB53:m67B FB54:m67B FB55:m67B",
  "FB56:m67E FB57:m67E FB58:m67E FB59:m67E FB5A:m680 FB5B:m680 FB5C:m680 FB5D:m680 FB5E:m67A",
  "FB5F:m67A FB60:m67A FB61:m67A FB62:m67F FB63:m67F FB64:m67F FB65:m67F FB66:m679 FB67:m679",
  "FB68:m679 FB69:m679 FB6A:m6A4 FB6B:m6A4 FB6C:m6A4 FB6D:m6A4 FB6E:m6A6 FB6F:m6A6 FB70:m6A6",
  "FB71:m6A6 FB72:m684 FB73:m684 FB74:m684 FB75:m684 FB76:m683 FB77:m683 FB78:m683 FB79:m683",
  "FB7A:m686 FB7B:m686 FB7C:m686 FB7D-FB7E:s686 FB7F:m687 FB80:m687 FB81:m687 FB82:m68D",
  "FB83:m68D FB84:m68C FB85:m68C FB86:m68E FB87:m68E FB88:m688 FB89:m688 FB8A:m698 FB8B:m698",
  "FB8C:m691 FB8D:m691 FB8E:m6A9 FB8F:m6A9 FB90:m6A9 FB91:m6A9 FB92:m6AF FB93:m6AF FB94:m6AF",
  "FB95:m6AF FB96:m6B3 FB97:m6B3 FB98:m6B3 FB99:m6B3 FB9A:m6B1 FB9B:m6B1 FB9C:m6B1 FB9D:m6B1",
  "FB9E:m6BA FB9F-FBA0:s6BA FBA1:m6BB FBA2:m6BB FBA3:m6BB FBA4:m6C0 FBA5-FBA6:s6C0 FBA7:m6C1",
  "FBA8:m6C1 FBA9:m6C1 FBAA:m6BE FBAB:m6BE FBAC:m6BE FBAD:m6BE FBAE:m6D2 FBAF-FBB0:s6D2",
  "FBB1:m6D3 FBB2-FBD2:v FBD3:m6AD FBD4:m6AD FBD5:m6AD FBD6:m6AD FBD7:m6C7 FBD8:m6C7 FBD9:m6C6",
  "FBDA:m6C6 FBDB:m6C8 FBDC:m6C8 FBDD:m6C7+674 FBDE:m6CB FBDF:m6CB FBE0:m6C5 FBE1:m6C5",
  "FBE2:m6C9 FBE3:m6C9 FBE4:m6D0 FBE5:m6D0 FBE6:m6D0 FBE7:m6D0 FBE8:m649 FBE9:m649",
  "FBEA:m626+627 FBEB:m626+627 FBEC:m626+6D5 FBED:m626+6D5 FBEE:m626+648 FBEF:m626+648",
  "FBF0:m626+6C7 FBF1:m626+6C7 FBF2:m626+6C6 FBF3:m626+6C6 FBF4:m626+6C8 FBF5:m626+6C8",
  "FBF6:m626+6D0 FBF7:m626+6D0 FBF8:m626+6D0 FBF9:m626+649 FBFA:m626+649 FBFB:m626+649",
  "FBFC:m6CC FBFD:m6CC FBFE:m6CC FBFF:m6CC FC00:m626+62C FC01:m626+62D FC02:m626+645",
  "FC03:m626+649 FC04:m626+64A FC05:m628+62C FC06:m628+62D FC07:m628+62E FC08:m628+645",
  "FC09:m628+649 FC0A:m628+64A FC0B:m62A+62C FC0C:m62A+62D FC0D:m62A+62E FC0E:m62A+645",
  "FC0F:m62A+649 FC10:m62A+64A FC11:m62B+62C FC12:m62B+645 FC13:m62B+649 FC14:m62B+64A",
  "FC15:m62C+62D FC16:m62C+645 FC17:m62D+62C FC18:m62D+645 FC19:m62E+62C FC1A:m62E+62D",
  "FC1B:m62E+645 FC1C:m633+62C FC1D:m633+62D FC1E:m633+62E FC1F:m633+645 FC20:m635+62D",
  "FC21:m635+645 FC22:m636+62C FC23:m636+62D FC24:m636+62E FC25:m636+645 FC26:m637+62D",
  "FC27:m637+645 FC28:m638+645 FC29:m639+62C FC2A:m639+645 FC2B:m63A+62C FC2C:m63A+645",
  "FC2D:m641+62C FC2E:m641+62D FC2F:m641+62E FC30:m641+645 FC31:m641+649 FC32:m641+64A",
  "FC33:m642+62D FC34:m642+645 FC35:m642+649 FC36:m642+64A FC37:m643+627 FC38:m643+62C",
  "FC39:m643+62D FC3A:m643+62E FC3B:m643+644 FC3C:m643+645 FC3D:m643+649 FC3E:m643+64A",
  "FC3F:m644+62C FC40:m644+62D FC41:m644+62E FC42:m644+645 FC43:m644+649 FC44:m644+64A",
  "FC45:m645+62C FC46:m645+62D FC47:m645+62E FC48:m645+645 FC49:m645+649 FC4A:m645+64A",
  "FC4B:m646+62C FC4C:m646+62D FC4D:m646+62E FC4E:m646+645 FC4F:m646+649 FC50:m646+64A",
  "FC51:m647+62C FC52:m647+645 FC53:m647+649 FC54:m647+64A FC55:m64A+62C FC56:m64A+62D",
  "FC57:m64A+62E FC58:m64A+645 FC59:m64A+649 FC5A:m64A+64A FC5B:m630+670 FC5C:m631+670",
  "FC5D:m649+670 FC5E:m20+64C+651 FC5F:m20+64D+651 FC60:m20+64E+651 FC61:m20+64F+651",
  "FC62:m20+650+651 FC63:m20+651+670 FC64:m626+631 FC65:m626+632 FC66:m626+645 FC67:m626+646",
  "FC68:m626+649 FC69:m626+64A FC6A:m628+631 FC6B:m628+632 FC6C:m628+645 FC6D:m628+646",
  "FC6E:m628+649 FC6F:m628+64A FC70:m62A+631 FC71:m62A+632 FC72:m62A+645 FC73:m62A+646",
  "FC74:m62A+649 FC75:m62A+64A FC76:m62B+631 FC77:m62B+632 FC78:m62B+645 FC79:m62B+646",
  "FC7A:m62B+649 FC7B:m62B+64A FC7C:m641+649 FC7D:m641+64A FC7E:m642+649 FC7F:m642+64A",
  "FC80:m643+627 FC81:m643+644 FC82:m643+645 FC83:m643+649 FC84:m643+64A FC85:m644+645",
  "FC86:m644+649 FC87:m644+64A FC88:m645+627 FC89:m645+645 FC8A:m646+631 FC8B:m646+632",
  "FC8C:m646+645 FC8D:m646+646 FC8E:m646+649 FC8F:m646+64A FC90:m649+670 FC91:m64A+631",
  "FC92:m64A+632 FC93:m64A+645 FC94:m64A+646 FC95:m64A+649 FC96:m64A+64A FC97:m626+62C",
  "FC98:m626+62D FC99:m626+62E FC9A:m626+645 FC9B:m626+647 FC9C:m628+62C FC9D:m628+62D",
  "FC9E:m628+62E FC9F:m628+645 FCA0:m628+647 FCA1:m62A+62C FCA2:m62A+62D FCA3:m62A+62E",
  "FCA4:m62A+645 FCA5:m62A+647 FCA6:m62B+645 FCA7:m62C+62D FCA8:m62C+645 FCA9:m62D+62C",
  "FCAA:m62D+645 FCAB:m62E+62C FCAC:m62E+645 FCAD:m633+62C FCAE:m633+62D FCAF:m633+62E",
  "FCB0:m633+645 FCB1:m635+62D FCB2:m635+62E FCB3:m635+645 FCB4:m636+62C FCB5:m636+62D",
  "FCB6:m636+62E FCB7:m636+645 FCB8:m637+62D FCB9:m638+645 FCBA:m639+62C FCBB:m639+645",
  "FCBC:m63A+62C FCBD:m63A+645 FCBE:m641+62C FCBF:m641+62D FCC0:m641+62E FCC1:m641+645",
  "FCC2:m642+62D FCC3:m642+645 FCC4:m643+62C FCC5:m643+62D FCC6:m643+62E FCC7:m643+644",
  "FCC8:m643+645 FCC9:m644+62C FCCA:m644+62D FCCB:m644+62E FCCC:m644+645 FCCD:m644+647",
  "FCCE:m645+62C FCCF:m645+62D FCD0:m645+62E FCD1:m645+645 FCD2:m646+62C FCD3:m646+62D",
  "FCD4:m646+62E FCD5:m646+645 FCD6:m646+647 FCD7:m647+62C FCD8:m647+645 FCD9:m647+670",
  "FCDA:m64A+62C FCDB:m64A+62D FCDC:m64A+62E FCDD:m64A+645 FCDE:m64A+647 FCDF:m626+645",
  "FCE0:m626+647 FCE1:m628+645 FCE2:m628+647 FCE3:m62A+645 FCE4:m62A+647 FCE5:m62B+645",
  "FCE6:m62B+647 FCE7:m633+645 FCE8:m633+647 FCE9:m634+645 FCEA:m634+647 FCEB:m643+644",
  "FCEC:m643+645 FCED:m644+645 FCEE:m646+645 FCEF:m646+647 FCF0:m64A+645 FCF1:m64A+647",
  "FCF2:m640+64E+651 FCF3:m640+64F+651 FCF4:m640+650+651 FCF5:m637+649 FCF6:m637+64A",
  "FCF7:m639+649 FCF8:m639+64A FCF9:m63A+649 FCFA:m63A+64A FCFB:m633+649 FCFC:m633+64A",
  "FCFD:m634+649 FCFE:m634+64A FCFF:m62D+649 FD00:m62D+64A FD01:m62C+649 FD02:m62C+64A",
  "FD03:m62E+649 FD04:m62E+64A FD05:m635+649 FD06:m635+64A FD07:m636+649 FD08:m636+64A",
  "FD09:m634+62C FD0A:m634+62D FD0B:m634+62E FD0C:m634+645 FD0D:m634+631 FD0E:m633+631",
  "FD0F:m635+631 FD10:m636+631 FD11:m637+649 FD12:m637+64A FD13:m639+649 FD14:m639+64A",
  "FD15:m63A+649 FD16:m63A+64A FD17:m633+649 FD18:m633+64A FD19:m634+649 FD1A:m634+64A",
  "FD1B:m62D+649 FD1C:m62D+64A FD1D:m62C+649 FD1E:m62C+64A FD1F:m62E+649 FD20:m62E+64A",
  "FD21:m635+649 FD22:m635+64A FD23:m636+649 FD24:m636+64A FD25:m634+62C FD26:m634+62D",
  "FD27:m634+62E FD28:m634+645 FD29:m634+631 FD2A:m633+631 FD2B:m635+631 FD2C:m636+631",
  "FD2D:m634+62C FD2E:m634+62D FD2F:m634+62E FD30:m634+645 FD31:m633+647 FD32:m634+647",
  "FD33:m637+645 FD34:m633+62C FD35:m633+62D FD36:m633+62E FD37:m634+62C FD38:m634+62D",
  "FD39:m634+62E FD3A:m637+645 FD3B:m638+645 FD3C:m627+64B FD3D:m627+64B FD3E-FD4F:v",
  "FD50:m62A+62C+645 FD51:m62A+62D+62C FD52:m62A+62D+62C FD53:m62A+62D+645 FD54:m62A+62E+645",
  "FD55:m62A+645+62C FD56:m62A+645+62D FD57:m62A+645+62E FD58:m62C+645+62D FD59:m62C+645+62D",
  "FD5A:m62D+645+64A FD5B:m62D+645+649 FD5C:m633+62D+62C FD5D:m633+62C+62D FD5E:m633+62C+649",
  "FD5F:m633+645+62D FD60:m633+645+62D FD61:m633+645+62C FD62:m633+645+645 FD63:m633+645+645",
  "FD64:m635+62D+62D FD65:m635+62D+62D FD66:m635+645+645 FD67:m634+62D+645 FD68:m634+62D+645",
  "FD69:m634+62C+64A FD6A:m634+645+62E FD6B:m634+645+62E FD6C:m634+645+645 FD6D:m634+645+645",
  "FD6E:m636+62D+649 FD6F:m636+62E+645 FD70:m636+62E+645 FD71:m637+645+62D FD72:m637+645+62D",
  "FD73:m637+645+645 FD74:m637+645+64A FD75:m639+62C+645 FD76:m639+645+645 FD77:m639+645+645",
  "FD78:m639+645+649 FD79:m63A+645+645 FD7A:m63A+645+64A FD7B:m63A+645+649 FD7C:m641+62E+645",
  "FD7D:m641+62E+645 FD7E:m642+645+62D FD7F:m642+645+645 FD80:m644+62D+645 FD81:m644+62D+64A",
  "FD82:m644+62D+649 FD83:m644+62C+62C FD84:m644+62C+62C FD85:m644+62E+645 FD86:m644+62E+645",
  "FD87:m644+645+62D FD88:m644+645+62D FD89:m645+62D+62C FD8A:m645+62D+645 FD8B:m645+62D+64A",
  "FD8C:m645+62C+62D FD8D:m645+62C+645 FD8E:m645+62E+62C FD8F:m645+62E+645 FD90-FD91:v",
  "FD92:m645+62C+62E FD93:m647+645+62C FD94:m647+645+645 FD95:m646+62D+645 FD96:m646+62D+649",
  "FD97:m646+62C+645 FD98:m646+62C+645 FD99:m646+62C+649 FD9A:m646+645+64A FD9B:m646+645+649",
  "FD9C:m64A+645+645 FD9D:m64A+645+645 FD9E:m628+62E+64A FD9F:m62A+62C+64A FDA0:m62A+62C+649",
  "FDA1:m62A+62E+64A FDA2:m62A+62E+649 FDA3:m62A+645+64A FDA4:m62A+645+649 FDA5:m62C+645+64A",
  "FDA6:m62C+62D+649 FDA7:m62C+645+649 FDA8:m633+62E+649 FDA9:m635+62D+64A FDAA:m634+62D+64A",
  "FDAB:m636+62D+64A FDAC:m644+62C+64A FDAD:m644+645+64A FDAE:m64A+62D+64A FDAF:m64A+62C+64A",
  "FDB0:m64A+645+64A FDB1:m645+645+64A FDB2:m642+645+64A FDB3:m646+62D+64A FDB4:m642+645+62D",
  "FDB5:m644+62D+645 FDB6:m639+645+64A FDB7:m643+645+64A FDB8:m646+62C+62D FDB9:m645+62E+64A",
  "FDBA:m644+62C+645 FDBB:m643+645+645 FDBC:m644+62C+645 FDBD:m646+62C+62D FDBE:m62C+62D+64A",
  "FDBF:m62D+62C+64A FDC0:m645+62C+64A FDC1:m641+645+64A FDC2:m628+62D+64A FDC3:m643+645+645",
  "FDC4:m639+62C+645 FDC5:m635+645+645 FDC6:m633+62E+64A FDC7:m646+62C+64A FDC8-FDCF:v",
  "FDF0:m635+644+6D2 FDF1:m642+644+6D2 FDF2:m627+644+644+647 FDF3:m627+643+628+631",
  "FDF4:m645+62D+645+62F FDF5:m635+644+639+645 FDF6:m631+633+648+644 FDF7:m639+644+64A+647",
  "FDF8:m648+633+644+645 FDF9:m635+644+649",
  "FDFA:m635+644+649+20+627+644+644+647+20+639+644+64A+647+20+648+633+644+645",
  "FDFB:m62C+644+20+62C+644+627+644+647 FDFC:m631+6CC+627+644 FDFD-FDFF:v FE00-FE0F:i FE10:m2C",
  "FE11:m3001 FE13-FE14:s3A FE15:m21 FE16:m3F FE17-FE18:s3016 FE20-FE2F:v FE31:m2014 FE32:m2013",
  "FE33:m5F FE34:m5F FE35-FE36:s28 FE37:m7B FE38:m7D FE39-FE3A:s3014 FE3B-FE3C:s3010",
  "FE3D-FE3E:s300A FE3F-FE40:s3008 FE41-FE44:s300C FE45-FE46:v FE47:m5B FE48:m5D FE49:m20+305",
  "FE4A:m20+305 FE4B:m20+305 FE4C:m20+305 FE4D:m5F FE4E:m5F FE4F:m5F FE50:m2C FE51:m3001",
  "FE54:m3B FE55:m3A FE56:m3F FE57:m21 FE58:m2014 FE59-FE5A:s28 FE5B:m7B FE5C:m7D",
  "FE5D-FE5E:s3014 FE5F:m23 FE60:m26 FE61-FE62:s2A FE63:m2D FE64:m3C FE65:m3E FE66:m3D FE68:m5C",
  "FE69-FE6A:s24 FE6B:m40 FE70:m20+64B FE71:m640+64B FE72:m20+64C FE73:v FE74:m20+64D",
  "FE76:m20+64E FE77:m640+64E FE78:m20+64F FE79:m640+64F FE7A:m20+650 FE7B:m640+650",
  "FE7C:m20+651 FE7D:m640+651 FE7E:m20+652 FE7F:m640+652 FE80-FE81:s621 FE82-FE83:s622",
  "FE84-FE85:s623 FE86-FE87:s624 FE88-FE89:s625 FE8A:m626 FE8B:m626 FE8C-FE8D:s626",
  "FE8E-FE8F:s627 FE90:m628 FE91:m628 FE92-FE93:s628 FE94-FE95:s629 FE96:m62A FE97:m62A",
  "FE98-FE99:s62A FE9A:m62B FE9B:m62B FE9C-FE9D:s62B FE9E:m62C FE9F:m62C FEA0-FEA1:s62C",
  "FEA2:m62D FEA3:m62D FEA4-FEA5:s62D FEA6:m62E FEA7:m62E FEA8-FEA9:s62E FEAA-FEAB:s62F",
  "FEAC-FEAD:s630 FEAE-FEAF:s631 FEB0-FEB1:s632 FEB2:m633 FEB3:m633 FEB4-FEB5:s633 FEB6:m634",
  "FEB7:m634 FEB8-FEB9:s634 FEBA:m635 FEBB:m635 FEBC-FEBD:s635 FEBE:m636 FEBF:m636",
  "FEC0-FEC1:s636 FEC2:m637 FEC3:m637 FEC4-FEC5:s637 FEC6:m638 FEC7:m638 FEC8-FEC9:s638",
  "FECA:m639 FECB:m639 FECC-FECD:s639 FECE:m63A FECF:m63A FED0:m63A FED1:m641 FED2:m641",
  "FED3:m641 FED4-FED5:s641 FED6:m642 FED7:m642 FED8-FED9:s642 FEDA:m643 FEDB:m643",
  "FEDC-FEDD:s643 FEDE:m644 FEDF:m644 FEE0-FEE1:s644 FEE2:m645 FEE3:m645 FEE4-FEE5:s645",
  "FEE6:m646 FEE7:m646 FEE8-FEE9:s646 FEEA:m647 FEEB:m647 FEEC-FEED:s647 FEEE-FEEF:s648",
  "FEF0-FEF1:s649 FEF2:m64A FEF3:m64A FEF4:m64A FEF5:m644+622 FEF6:m644+622 FEF7:m644+623",
  "FEF8:m644+623 FEF9:m644+625 FEFA:m644+625 FEFB:m644+627 FEFC:m644+627 FEFF:i FF01-FF20:s21",
  "FF21-FF3A:s61 FF3B-FF5E:s5B FF5F-FF60:s2985 FF61:m2E FF62-FF63:s300C FF64:m3001 FF65:m30FB",
  "FF66:m30F2 FF67:m30A1 FF68:m30A3 FF69:m30A5 FF6A:m30A7 FF6B:m30A9 FF6C:m30E3 FF6D:m30E5",
  "FF6E:m30E7 FF6F:m30C3 FF70:m30FC FF71:m30A2 FF72:m30A4 FF73:m30A6 FF74:m30A8 FF75-FF76:s30AA",
  "FF77:m30AD FF78:m30AF FF79:m30B1 FF7A:m30B3 FF7B:m30B5 FF7C:m30B7 FF7D:m30B9 FF7E:m30BB",
  "FF7F:m30BD FF80:m30BF FF81:m30C1 FF82:m30C4 FF83:m30C6 FF84:m30C8 FF85-FF8A:s30CA FF8B:m30D2",
  "FF8C:m30D5 FF8D:m30D8 FF8E:m30DB FF8F-FF93:s30DE FF94:m30E4 FF95:m30E6 FF96-FF9B:s30E8",
  "FF9C:m30EF FF9D:m30F3 FF9E-FF9F:s3099 FFA0:i FFA1-FFA2:s1100 FFA3:m11AA FFA4:m1102",
  "FFA5-FFA6:s11AC FFA7-FFA9:s1103 FFAA-FFAF:s11B0 FFB0:m111A FFB1-FFB3:s1106 FFB4:m1121",
  "FFB5-FFBE:s1109 FFC2-FFC7:s1161 FFCA-FFCF:s1167 FFD2-FFD7:s116D FFDA-FFDC:s1173",
  "FFE0-FFE1:sA2 FFE2:mAC FFE3:m20+304 FFE4:mA6 FFE5:mA5 FFE6:m20A9 FFE8:m2502 FFE9-FFEC:s2190",
  "FFED:m25A0 FFEE:m25CB 10000-1000B:v 1000D-10026:v 10028-1003A:v 1003C-1003D:v 1003F-1004D:v",
  "10050-1005D:v 10080-100FA:v 10100-10102:v 10107-10133:v 10137-1018E:v 10190-1019C:v 101A0:v",
  "101D0-101FD:v 10280-1029C:v 102A0-102D0:v 102E0-102FB:v 10300-10323:v 1032D-1034A:v",
  "10350-1037A:v 10380-1039D:v 1039F-103C3:v 103C8-103D5:v 10400-10427:s10428 10428-1049D:v",
  "104A0-104A9:v 104B0-104D3:s104D8 104D8-104FB:v 10500-10527:v 10530-10563:v 1056F:v",
  "10570-1057A:s10597 1057C-1058A:s105A3 1058C-10592:s105B3 10594-10595:s105BB 10597-105A1:v",
  "105A3-105B1:v 105B3-105B9:v 105BB-105BC:v 105C0-105F3:v 10600-10736:v 10740-10755:v",
  "10760-10767:v 10780:v 10781-10782:s2D0 10783:mE6 10784:m299 10785:m253 10787:m2A3",
  "10788:mAB66 10789:m2A5 1078A:m2A4 1078B-1078C:s256 1078D:m1D91 1078E:m258 1078F:m25E",
  "10790:m2A9 10791:m264 10792:m262 10793:m260 10794:m29B 10795:m127 10796:m29C 10797:m267",
  "10798:m284 10799-1079A:s2AA 1079B:m26C 1079C:m1DF04 1079D:mA78E 1079E:m26E 1079F:m1DF05",
  "107A0:m28E 107A1:m1DF06 107A2:mF8 107A3-107A4:s276 107A5:m71 107A6:m27A 107A7:m1DF08",
  "107A8-107A9:s27D 107AA:m280 107AB:m2A8 107AC:m2A6 107AD:mAB67 107AE:m2A7 107AF:m288",
  "107B0:m2C71 107B2:m28F 107B3-107B4:s2A1 107B5:m298 107B6-107B8:s1C0 107B9:m1DF0A",
  "107BA:m1DF1E 10800-10805:v 10808:v 1080A-10835:v 10837-10838:v 1083C:v 1083F-10855:v",
  "10857-1089E:v 108A7-108AF:v 108E0-108F2:v 108F4-108F5:v 108FB-1091B:v 1091F-10939:v",
  "1093F-10959:v 10980-109B7:v 109BC-109CF:v 109D2-10A03:v 10A05-10A06:v 10A0C-10A13:v",
  "10A15-10A17:v 10A19-10A35:v 10A38-10A3A:v 10A3F-10A48:v 10A50-10A58:v 10A60-10A9F:v",
  "10AC0-10AE6:v 10AEB-10AF6:v 10B00-10B35:v 10B39-10B55:v 10B58-10B72:v 10B78-10B91:v",
  "10B99-10B9C:v 10BA9-10BAF:v 10C00-10C48:v 10C80-10CB2:s10CC0 10CC0-10CF2:v 10CFA-10D27:v",
  "10D30-10D39:v 10D40-10D4F:v 10D50-10D65:s10D70 10D69-10D85:v 10D8E-10D8F:v 10E60-10E7E:v",
  "10E80-10EA9:v 10EAB-10EAD:v 10EB0-10EB1:v 10EC2-10EC7:v 10ED0-10ED8:v 10EFA-10F27:v",
  "10F30-10F59:v 10F70-10F89:v 10FB0-10FCB:v 10FE0-10FF6:v 11000-1104D:v 11052-11075:v",
  "1107F-110BC:v 110BE-110C2:v 110D0-110E8:v 110F0-110F9:v 11100-11134:v 11136-11147:v",
  "11150-11176:v 11180-111DF:v 111E1-111F4:v 11200-11211:v 11213-11241:v 11280-11286:v 11288:v",
  "1128A-1128D:v 1128F-1129D:v 1129F-112A9:v 112B0-112EA:v 112F0-112F9:v 11300-11303:v",
  "11305-1130C:v 1130F-11310:v 11313-11328:v 1132A-11330:v 11332-11333:v 11335-11339:v",
  "1133B-11344:v 11347-11348:v 1134B-1134D:v 11350:v 11357:v 1135D-11363:v 11366-1136C:v",
  "11370-11374:v 11380-11389:v 1138B:v 1138E:v 11390-113B5:v 113B7-113C0:v 113C2:v 113C5:v",
  "113C7-113CA:v 113CC-113D5:v 113D7-113D8:v 113E1-113E2:v 11400-1145B:v 1145D-11461:v",
  "11480-114C7:v 114D0-114D9:v 11580-115B5:v 115B8-115DD:v 11600-11644:v 11650-11659:v",
  "11660-1166C:v 11680-116B9:v 116C0-116C9:v 116D0-116E3:v 11700-1171A:v 1171D-1172B:v",
  "11730-11746:v 11800-1183B:v 118A0-118BF:s118C0 118C0-118F2:v 118FF-11906:v 11909:v",
  "1190C-11913:v 11915-11916:v 11918-11935:v 11937-11938:v 1193B-11946:v 11950-11959:v",
  "119A0-119A7:v 119AA-119D7:v 119DA-119E4:v 11A00-11A47:v 11A50-11AA2:v 11AB0-11AF8:v",
  "11B00-11B09:v 11B60-11B67:v 11BC0-11BE1:v 11BF0-11BF9:v 11C00-11C08:v 11C0A-11C36:v",
  "11C38-11C45:v 11C50-11C6C:v 11C70-11C8F:v 11C92-11CA7:v 11CA9-11CB6:v 11D00-11D06:v",
  "11D08-11D09:v 11D0B-11D36:v 11D3A:v 11D3C-11D3D:v 11D3F-11D47:v 11D50-11D59:v 11D60-11D65:v",
  "11D67-11D68:v 11D6A-11D8E:v 11D90-11D91:v 11D93-11D98:v 11DA0-11DA9:v 11DB0-11DDB:v",
  "11DE0-11DE9:v 11EE0-11EF8:v 11F00-11F10:v 11F12-11F3A:v 11F3E-11F5A:v 11FB0:v 11FC0-11FF1:v",
  "11FFF-12399:v 12400-1246E:v 12470-12474:v 12480-12543:v 12F90-12FF2:v 13000-1342F:v",
  "13440-13455:v 13460-143FA:v 14400-14646:v 16100-16139:v 16800-16A38:v 16A40-16A5E:v",
  "16A60-16A69:v 16A6E-16ABE:v 16AC0-16AC9:v 16AD0-16AED:v 16AF0-16AF5:v 16B00-16B45:v",
  "16B50-16B59:v 16B5B-16B61:v 16B63-16B77:v 16B7D-16B8F:v 16D40-16D79:v 16E40-16E5F:s16E60",
  "16E60-16E9A:v 16EA0-16EB8:s16EBB 16EBB-16ED3:v 16F00-16F4A:v 16F4F-16F87:v 16F8F-16F9F:v",
  "16FE0-16FE4:v 16FF0-16FF6:v 17000-18CD5:v 18CFF-18D1E:v 18D80-18DF2:v 1AFF0-1AFF3:v",
  "1AFF5-1AFFB:v 1AFFD-1AFFE:v 1B000-1B122:v 1B132:v 1B150-1B152:v 1B155:v 1B164-1B167:v",
  "1B170-1B2FB:v 1BC00-1BC6A:v 1BC70-1BC7C:v 1BC80-1BC88:v 1BC90-1BC99:v 1BC9C-1BC9F:v",
  "1BCA0-1BCA3:i 1CC00-1CCD5:v 1CCD6-1CCEF:s61 1CCF0-1CCF9:s30 1CCFA-1CCFC:v 1CD00-1CEB3:v",
  "1CEBA-1CED0:v 1CEE0-1CEF0:v 1CF00-1CF2D:v 1CF30-1CF46:v 1CF50-1CFC3:v 1D000-1D0F5:v",
  "1D100-1D126:v 1D129-1D15D:v 1D15E:m1D157+1D165 1D15F:m1D158+1D165 1D160:m1D158+1D165+1D16E",
  "1D161:m1D158+1D165+1D16F 1D162:m1D158+1D165+1D170 1D163:m1D158+1D165+1D171",
  "1D164:m1D158+1D165+1D172 1D165-1D172:v 1D173-1D17A:i 1D17B-1D1BA:v 1D1BB:m1D1B9+1D165",
  "1D1BC:m1D1BA+1D165 1D1BD:m1D1B9+1D165+1D16E 1D1BE:m1D1BA+1D165+1D16E",
  "1D1BF:m1D1B9+1D165+1D16F 1D1C0:m1D1BA+1D165+1D16F 1D1C1-1D1EA:v 1D200-1D245:v 1D2C0-1D2D3:v",
  "1D2E0-1D2F3:v 1D300-1D356:v 1D360-1D378:v 1D400-1D419:s61 1D41A-1D433:s61 1D434-1D44D:s61",
  "1D44E-1D454:s61 1D456-1D467:s69 1D468-1D481:s61 1D482-1D49B:s61 1D49C:m61 1D49E-1D49F:s63",
  "1D4A2:m67 1D4A5-1D4A6:s6A 1D4A9-1D4AC:s6E 1D4AE-1D4B5:s73 1D4B6-1D4B9:s61 1D4BB:m66",
  "1D4BD-1D4C3:s68 1D4C5-1D4CF:s70 1D4D0-1D4E9:s61 1D4EA-1D503:s61 1D504-1D505:s61",
  "1D507-1D50A:s64 1D50D-1D514:s6A 1D516-1D51C:s73 1D51E-1D537:s61 1D538-1D539:s61",
  "1D53B-1D53E:s64 1D540-1D544:s69 1D546:m6F 1D54A-1D550:s73 1D552-1D56B:s61 1D56C-1D585:s61",
  "1D586-1D59F:s61 1D5A0-1D5B9:s61 1D5BA-1D5D3:s61 1D5D4-1D5ED:s61 1D5EE-1D607:s61",
  "1D608-1D621:s61 1D622-1D63B:s61 1D63C-1D655:s61 1D656-1D66F:s61 1D670-1D689:s61",
  "1D68A-1D6A3:s61 1D6A4:m131 1D6A5:m237 1D6A8-1D6B8:s3B1 1D6B9:m3B8 1D6BA-1D6C0:s3C3",
  "1D6C1:m2207 1D6C2-1D6D2:s3B1 1D6D3:m3C3 1D6D4-1D6DA:s3C3 1D6DB:m2202 1D6DC:m3B5 1D6DD:m3B8",
  "1D6DE:m3BA 1D6DF:m3C6 1D6E0:m3C1 1D6E1:m3C0 1D6E2-1D6F2:s3B1 1D6F3:m3B8 1D6F4-1D6FA:s3C3",
  "1D6FB:m2207 1D6FC-1D70C:s3B1 1D70D:m3C3 1D70E-1D714:s3C3 1D715:m2202 1D716:m3B5 1D717:m3B8",
  "1D718:m3BA 1D719:m3C6 1D71A:m3C1 1D71B:m3C0 1D71C-1D72C:s3B1 1D72D:m3B8 1D72E-1D734:s3C3",
  "1D735:m2207 1D736-1D746:s3B1 1D747:m3C3 1D748-1D74E:s3C3 1D74F:m2202 1D750:m3B5 1D751:m3B8",
  "1D752:m3BA 1D753:m3C6 1D754:m3C1 1D755:m3C0 1D756-1D766:s3B1 1D767:m3B8 1D768-1D76E:s3C3",
  "1D76F:m2207 1D770-1D780:s3B1 1D781:m3C3 1D782-1D788:s3C3 1D789:m2202 1D78A:m3B5 1D78B:m3B8",
  "1D78C:m3BA 1D78D:m3C6 1D78E:m3C1 1D78F:m3C0 1D790-1D7A0:s3B1 1D7A1:m3B8 1D7A2-1D7A8:s3C3",
  "1D7A9:m2207 1D7AA-1D7BA:s3B1 1D7BB:m3C3 1D7BC-1D7C2:s3C3 1D7C3:m2202 1D7C4:m3B5 1D7C5:m3B8",
  "1D7C6:m3BA 1D7C7:m3C6 1D7C8:m3C1 1D7C9:m3C0 1D7CA:m3DD 1D7CB:m3DD 1D7CE-1D7D7:s30",
  "1D7D8-1D7E1:s30 1D7E2-1D7EB:s30 1D7EC-1D7F5:s30 1D7F6-1D7FF:s30 1D800-1DA8B:v 1DA9B-1DA9F:v",
  "1DAA1-1DAAF:v 1DF00-1DF1E:v 1DF25-1DF2A:v 1E000-1E006:v 1E008-1E018:v 1E01B-1E021:v",
  "1E023-1E024:v 1E026-1E02A:v 1E030-1E038:s430 1E039-1E03B:s43A 1E03C-1E046:s43E 1E047:m44B",
  "1E048-1E049:s44D 1E04A:mA689 1E04B:m4D9 1E04C:m456 1E04D:m458 1E04E:m4E9 1E04F:m4AF",
  "1E050:m4CF 1E051-1E059:s430 1E05A-1E05B:s43A 1E05C-1E05D:s43E 1E05E:m441 1E05F-1E064:s443",
  "1E065-1E066:s44A 1E067:m491 1E068:m456 1E069:m455 1E06A:m45F 1E06B:m4AB 1E06C:mA651",
  "1E06D:m4B1 1E08F:v 1E100-1E12C:v 1E130-1E13D:v 1E140-1E149:v 1E14E-1E14F:v 1E290-1E2AE:v",
  "1E2C0-1E2F9:v 1E2FF:v 1E4D0-1E4F9:v 1E5D0-1E5FA:v 1E5FF:v 1E6C0-1E6DE:v 1E6E0-1E6F5:v",
  "1E6FE-1E6FF:v 1E7E0-1E7E6:v 1E7E8-1E7EB:v 1E7ED-1E7EE:v 1E7F0-1E7FE:v 1E800-1E8C4:v",
  "1E8C7-1E8D6:v 1E900-1E921:s1E922 1E922-1E94B:v 1E950-1E959:v 1E95E-1E95F:v 1EC71-1ECB4:v",
  "1ED01-1ED3D:v 1EE00-1EE01:s627 1EE02:m62C 1EE03:m62F 1EE05:m648 1EE06:m632 1EE07:m62D",
  "1EE08:m637 1EE09:m64A 1EE0A-1EE0D:s643 1EE0E:m633 1EE0F:m639 1EE10:m641 1EE11:m635",
  "1EE12:m642 1EE13:m631 1EE14:m634 1EE15-1EE16:s62A 1EE17:m62E 1EE18:m630 1EE19:m636",
  "1EE1A:m638 1EE1B:m63A 1EE1C:m66E 1EE1D:m6BA 1EE1E:m6A1 1EE1F:m66F 1EE21:m628 1EE22:m62C",
  "1EE24:m647 1EE27:m62D 1EE29:m64A 1EE2A-1EE2D:s643 1EE2E:m633 1EE2F:m639 1EE30:m641",
  "1EE31:m635 1EE32:m642 1EE34:m634 1EE35-1EE36:s62A 1EE37:m62E 1EE39:m636 1EE3B:m63A",
  "1EE42:m62C 1EE47:m62D 1EE49:m64A 1EE4B:m644 1EE4D:m646 1EE4E:m633 1EE4F:m639 1EE51:m635",
  "1EE52:m642 1EE54:m634 1EE57:m62E 1EE59:m636 1EE5B:m63A 1EE5D:m6BA 1EE5F:m66F 1EE61:m628",
  "1EE62:m62C 1EE64:m647 1EE67:m62D 1EE68:m637 1EE69:m64A 1EE6A:m643 1EE6C-1EE6D:s645",
  "1EE6E:m633 1EE6F:m639 1EE70:m641 1EE71:m635 1EE72:m642 1EE74:m634 1EE75-1EE76:s62A",
  "1EE77:m62E 1EE79:m636 1EE7A:m638 1EE7B:m63A 1EE7C:m66E 1EE7E:m6A1 1EE80-1EE81:s627",
  "1EE82:m62C 1EE83:m62F 1EE84-1EE85:s647 1EE86:m632 1EE87:m62D 1EE88:m637 1EE89:m64A",
  "1EE8B-1EE8D:s644 1EE8E:m633 1EE8F:m639 1EE90:m641 1EE91:m635 1EE92:m642 1EE93:m631",
  "1EE94:m634 1EE95-1EE96:s62A 1EE97:m62E 1EE98:m630 1EE99:m636 1EE9A:m638 1EE9B:m63A",
  "1EEA1:m628 1EEA2:m62C 1EEA3:m62F 1EEA5:m648 1EEA6:m632 1EEA7:m62D 1EEA8:m637 1EEA9:m64A",
  "1EEAB-1EEAD:s644 1EEAE:m633 1EEAF:m639 1EEB0:m641 1EEB1:m635 1EEB2:m642 1EEB3:m631",
  "1EEB4:m634 1EEB5-1EEB6:s62A 1EEB7:m62E 1EEB8:m630 1EEB9:m636 1EEBA:m638 1EEBB:m63A",
  "1EEF0-1EEF1:v 1F000-1F02B:v 1F030-1F093:v 1F0A0-1F0AE:v 1F0B1-1F0BF:v 1F0C1-1F0CF:v",
  "1F0D1-1F0F5:v 1F101:m30+2C 1F102:m31+2C 1F103:m32+2C 1F104:m33+2C 1F105:m34+2C 1F106:m35+2C",
  "1F107:m36+2C 1F108:m37+2C 1F109:m38+2C 1F10A:m39+2C 1F10B-1F10F:v 1F110:m28+61+29",
  "1F111:m28+62+29 1F112:m28+63+29 1F113:m28+64+29 1F114:m28+65+29 1F115:m28+66+29",
  "1F116:m28+67+29 1F117:m28+68+29 1F118:m28+69+29 1F119:m28+6A+29 1F11A:m28+6B+29",
  "1F11B:m28+6C+29 1F11C:m28+6D+29 1F11D:m28+6E+29 1F11E:m28+6F+29 1F11F:m28+70+29",
  "1F120:m28+71+29 1F121:m28+72+29 1F122:m28+73+29 1F123:m28+74+29 1F124:m28+75+29",
  "1F125:m28+76+29 1F126:m28+77+29 1F127:m28+78+29 1F128:m28+79+29 1F129:m28+7A+29",
  "1F12A:m3014+73+3015 1F12B:m63 1F12C:m72 1F12D:m63+64 1F12E:m77+7A 1F12F:v 1F130-1F149:s61",
  "1F14A:m68+76 1F14B:m6D+76 1F14C:m73+64 1F14D:m73+73 1F14E:m70+70+76 1F14F:m77+63",
  "1F150-1F169:v 1F16A:m6D+63 1F16B:m6D+64 1F16C:m6D+72 1F16D-1F18F:v 1F190:m64+6A",
  "1F191-1F1AD:v 1F1E6-1F1FF:v 1F200:m307B+304B 1F201:m30B3+30B3 1F202:m30B5 1F210:m624B",
  "1F211:m5B57 1F212:m53CC 1F213:m30C7 1F214:m4E8C 1F215:m591A 1F216:m89E3 1F217:m5929",
  "1F218:m4EA4 1F219:m6620 1F21A:m7121 1F21B:m6599 1F21C:m524D 1F21D:m5F8C 1F21E:m518D",
  "1F21F:m65B0 1F220:m521D 1F221:m7D42 1F222:m751F 1F223:m8CA9 1F224:m58F0 1F225:m5439",
  "1F226:m6F14 1F227:m6295 1F228:m6355 1F229:m4E00 1F22A:m4E09 1F22B:m904A 1F22C:m5DE6",
  "1F22D:m4E2D 1F22E:m53F3 1F22F:m6307 1F230:m8D70 1F231:m6253 1F232:m7981 1F233:m7A7A",
  "1F234:m5408 1F235:m6E80 1F236:m6709 1F237:m6708 1F238:m7533 1F239:m5272 1F23A:m55B6",
  "1F23B:m914D 1F240:m3014+672C+3015 1F241:m3014+4E09+3015 1F242:m3014+4E8C+3015",
  "1F243:m3014+5B89+3015 1F244:m3014+70B9+3015 1F245:m3014+6253+3015 1F246:m3014+76D7+3015",
  "1F247:m3014+52DD+3015 1F248:m3014+6557+3015 1F250:m5F97 1F251:m53EF 1F260-1F265:v",
  "1F300-1F6D8:v 1F6DC-1F6EC:v 1F6F0-1F6FC:v 1F700-1F7D9:v 1F7E0-1F7EB:v 1F7F0:v 1F800-1F80B:v",
  "1F810-1F847:v 1F850-1F859:v 1F860-1F887:v 1F890-1F8AD:v 1F8B0-1F8BB:v 1F8C0-1F8C1:v",
  "1F8D0-1F8D8:v 1F900-1FA57:v 1FA60-1FA6D:v 1FA70-1FA7C:v 1FA80-1FA8A:v 1FA8E-1FAC6:v 1FAC8:v",
  "1FACD-1FADC:v 1FADF-1FAEA:v 1FAEF-1FAF8:v 1FB00-1FB92:v 1FB94-1FBEF:v 1FBF0-1FBF9:s30",
  "1FBFA:v 20000-2A6DF:v 2A700-2B81D:v 2B820-2CEAD:v 2CEB0-2EBE0:v 2EBF0-2EE5D:v 2F800:m4E3D",
  "2F801:m4E38 2F802:m4E41 2F803:m20122 2F804:m4F60 2F805:m4FAE 2F806:m4FBB 2F807:m5002",
  "2F808:m507A 2F809:m5099 2F80A:m50E7 2F80B:m50CF 2F80C:m349E 2F80D:m2063A 2F80E:m514D",
  "2F80F:m5154 2F810:m5164 2F811:m5177 2F812:m2051C 2F813:m34B9 2F814:m5167 2F815:m518D",
  "2F816:m2054B 2F817:m5197 2F818:m51A4 2F819:m4ECC 2F81A:m51AC 2F81B:m51B5 2F81C:m291DF",
  "2F81D:m51F5 2F81E:m5203 2F81F:m34DF 2F820:m523B 2F821:m5246 2F822:m5272 2F823:m5277",
  "2F824:m3515 2F825:m52C7 2F826:m52C9 2F827:m52E4 2F828:m52FA 2F829-2F82A:s5305 2F82B:m5317",
  "2F82C:m5349 2F82D:m5351 2F82E:m535A 2F82F:m5373 2F830:m537D 2F831:m537F 2F832:m537F",
  "2F833:m537F 2F834:m20A2C 2F835:m7070 2F836:m53CA 2F837:m53DF 2F838:m20B63 2F839:m53EB",
  "2F83A:m53F1 2F83B:m5406 2F83C:m549E 2F83D:m5438 2F83E:m5448 2F83F:m5468 2F840:m54A2",
  "2F841:m54F6 2F842:m5510 2F843:m5553 2F844:m5563 2F845:m5584 2F846:m5584 2F847:m5599",
  "2F848:m55AB 2F849:m55B3 2F84A:m55C2 2F84B:m5716 2F84C:m5606 2F84D:m5717 2F84E:m5651",
  "2F84F:m5674 2F850:m5207 2F851:m58EE 2F852:m57CE 2F853:m57F4 2F854:m580D 2F855:m578B",
  "2F856:m5832 2F857:m5831 2F858:m58AC 2F859:m214E4 2F85A:m58F2 2F85B:m58F7 2F85C:m5906",
  "2F85D:m591A 2F85E:m5922 2F85F:m5962 2F860:m216A8 2F861:m216EA 2F862:m59EC 2F863:m5A1B",
  "2F864:m5A27 2F865:m59D8 2F866:m5A66 2F867:m36EE 2F868:m36FC 2F869:m5B08 2F86A:m5B3E",
  "2F86B:m5B3E 2F86C:m219C8 2F86D:m5BC3 2F86E:m5BD8 2F86F:m5BE7 2F870:m5BF3 2F871:m21B18",
  "2F872:m5BFF 2F873:m5C06 2F874:m5F53 2F875:m5C22 2F876:m3781 2F877:m5C60 2F878:m5C6E",
  "2F879:m5CC0 2F87A:m5C8D 2F87B:m21DE4 2F87C:m5D43 2F87D:m21DE6 2F87E:m5D6E 2F87F:m5D6B",
  "2F880:m5D7C 2F881-2F882:s5DE1 2F883:m382F 2F884:m5DFD 2F885:m5E28 2F886:m5E3D 2F887:m5E69",
  "2F888:m3862 2F889:m22183 2F88A:m387C 2F88B:m5EB0 2F88C:m5EB3 2F88D:m5EB6 2F88E:m5ECA",
  "2F88F:m2A392 2F890:m5EFE 2F891:m22331 2F892:m22331 2F893:m8201 2F894:m5F22 2F895:m5F22",
  "2F896:m38C7 2F897:m232B8 2F898:m261DA 2F899:m5F62 2F89A:m5F6B 2F89B:m38E3 2F89C:m5F9A",
  "2F89D:m5FCD 2F89E:m5FD7 2F89F:m5FF9 2F8A0:m6081 2F8A1:m393A 2F8A2:m391C 2F8A3:m6094",
  "2F8A4:m226D4 2F8A5:m60C7 2F8A6:m6148 2F8A7:m614C 2F8A8:m614E 2F8A9:m614C 2F8AA:m617A",
  "2F8AB:m618E 2F8AC:m61B2 2F8AD:m61A4 2F8AE:m61AF 2F8AF:m61DE 2F8B0:m61F2 2F8B1:m61F6",
  "2F8B2:m6210 2F8B3:m621B 2F8B4:m625D 2F8B5:m62B1 2F8B6:m62D4 2F8B7:m6350 2F8B8:m22B0C",
  "2F8B9:m633D 2F8BA:m62FC 2F8BB:m6368 2F8BC:m6383 2F8BD:m63E4 2F8BE:m22BF1 2F8BF:m6422",
  "2F8C0:m63C5 2F8C1:m63A9 2F8C2:m3A2E 2F8C3:m6469 2F8C4:m647E 2F8C5:m649D 2F8C6:m6477",
  "2F8C7:m3A6C 2F8C8:m654F 2F8C9:m656C 2F8CA:m2300A 2F8CB:m65E3 2F8CC:m66F8 2F8CD:m6649",
  "2F8CE:m3B19 2F8CF:m6691 2F8D0:m3B08 2F8D1:m3AE4 2F8D2:m5192 2F8D3:m5195 2F8D4:m6700",
  "2F8D5:m669C 2F8D6:m80AD 2F8D7:m43D9 2F8D8:m6717 2F8D9:m671B 2F8DA:m6721 2F8DB:m675E",
  "2F8DC:m6753 2F8DD:m233C3 2F8DE:m3B49 2F8DF:m67FA 2F8E0:m6785 2F8E1:m6852 2F8E2:m6885",
  "2F8E3:m2346D 2F8E4:m688E 2F8E5:m681F 2F8E6:m6914 2F8E7:m3B9D 2F8E8:m6942 2F8E9:m69A3",
  "2F8EA:m69EA 2F8EB:m6AA8 2F8EC:m236A3 2F8ED:m6ADB 2F8EE:m3C18 2F8EF:m6B21 2F8F0:m238A7",
  "2F8F1:m6B54 2F8F2:m3C4E 2F8F3:m6B72 2F8F4:m6B9F 2F8F5-2F8F6:s6BBA 2F8F7:m23A8D 2F8F8:m21D0B",
  "2F8F9:m23AFA 2F8FA:m6C4E 2F8FB:m23CBC 2F8FC:m6CBF 2F8FD:m6CCD 2F8FE:m6C67 2F8FF:m6D16",
  "2F900:m6D3E 2F901:m6D77 2F902:m6D41 2F903:m6D69 2F904:m6D78 2F905:m6D85 2F906:m23D1E",
  "2F907:m6D34 2F908:m6E2F 2F909:m6E6E 2F90A:m3D33 2F90B:m6ECB 2F90C:m6EC7 2F90D:m23ED1",
  "2F90E:m6DF9 2F90F:m6F6E 2F910:m23F5E 2F911:m23F8E 2F912:m6FC6 2F913:m7039 2F914:m701E",
  "2F915:m701B 2F916:m3D96 2F917:m704A 2F918:m707D 2F919:m7077 2F91A:m70AD 2F91B:m20525",
  "2F91C:m7145 2F91D:m24263 2F91E:m719C 2F91F:m243AB 2F920:m7228 2F921:m7235 2F922:m7250",
  "2F923:m24608 2F924:m7280 2F925:m7295 2F926:m24735 2F927:m24814 2F928:m737A 2F929:m738B",
  "2F92A:m3EAC 2F92B:m73A5 2F92C:m3EB8 2F92D:m3EB8 2F92E:m7447 2F92F:m745C 2F930:m7471",
  "2F931:m7485 2F932:m74CA 2F933:m3F1B 2F934:m7524 2F935:m24C36 2F936:m753E 2F937:m24C92",
  "2F938:m7570 2F939:m2219F 2F93A:m7610 2F93B:m24FA1 2F93C:m24FB8 2F93D:m25044 2F93E:m3FFC",
  "2F93F:m4008 2F940:m76F4 2F941:m250F3 2F942:m250F2 2F943:m25119 2F944:m25133",
  "2F945-2F946:s771E 2F947:m771F 2F948:m774A 2F949:m4039 2F94A:m778B 2F94B:m4046 2F94C:m4096",
  "2F94D:m2541D 2F94E:m784E 2F94F:m788C 2F950:m78CC 2F951:m40E3 2F952:m25626 2F953:m7956",
  "2F954:m2569A 2F955:m256C5 2F956:m798F 2F957:m79EB 2F958:m412F 2F959:m7A40 2F95A:m7A4A",
  "2F95B:m7A4F 2F95C:m2597C 2F95D:m25AA7 2F95E:m25AA7 2F95F:m7AEE 2F960:m4202 2F961:m25BAB",
  "2F962:m7BC6 2F963:m7BC9 2F964:m4227 2F965:m25C80 2F966:m7CD2 2F967:m42A0 2F968:m7CE8",
  "2F969:m7CE3 2F96A:m7D00 2F96B:m25F86 2F96C:m7D63 2F96D:m4301 2F96E:m7DC7 2F96F:m7E02",
  "2F970:m7E45 2F971:m4334 2F972:m26228 2F973:m26247 2F974:m4359 2F975:m262D9 2F976:m7F7A",
  "2F977:m2633E 2F978:m7F95 2F979:m7FFA 2F97A:m8005 2F97B:m264DA 2F97C:m26523 2F97D:m8060",
  "2F97E:m265A8 2F97F:m8070 2F980:m2335F 2F981:m43D5 2F982:m80B2 2F983:m8103 2F984:m440B",
  "2F985:m813E 2F986:m5AB5 2F987:m267A7 2F988:m267B5 2F989:m23393 2F98A:m2339C 2F98B:m8201",
  "2F98C:m8204 2F98D:m8F9E 2F98E:m446B 2F98F:m8291 2F990:m828B 2F991:m829D 2F992:m52B3",
  "2F993:m82B1 2F994:m82B3 2F995:m82BD 2F996:m82E6 2F997:m26B3C 2F998:m82E5 2F999:m831D",
  "2F99A:m8363 2F99B:m83AD 2F99C:m8323 2F99D:m83BD 2F99E:m83E7 2F99F:m8457 2F9A0:m8353",
  "2F9A1:m83CA 2F9A2:m83CC 2F9A3:m83DC 2F9A4:m26C36 2F9A5:m26D6B 2F9A6:m26CD5 2F9A7:m452B",
  "2F9A8:m84F1 2F9A9:m84F3 2F9AA:m8516 2F9AB:m273CA 2F9AC:m8564 2F9AD:m26F2C 2F9AE:m455D",
  "2F9AF:m4561 2F9B0:m26FB1 2F9B1:m270D2 2F9B2:m456B 2F9B3:m8650 2F9B4:m865C 2F9B5:m8667",
  "2F9B6:m8669 2F9B7:m86A9 2F9B8:m8688 2F9B9:m870E 2F9BA:m86E2 2F9BB:m8779 2F9BC:m8728",
  "2F9BD:m876B 2F9BE:m8786 2F9BF:m45D7 2F9C0:m87E1 2F9C1:m8801 2F9C2:m45F9 2F9C3:m8860",
  "2F9C4:m8863 2F9C5:m27667 2F9C6:m88D7 2F9C7:m88DE 2F9C8:m4635 2F9C9:m88FA 2F9CA:m34BB",
  "2F9CB:m278AE 2F9CC:m27966 2F9CD:m46BE 2F9CE:m46C7 2F9CF:m8AA0 2F9D0:m8AED 2F9D1:m8B8A",
  "2F9D2:m8C55 2F9D3:m27CA8 2F9D4:m8CAB 2F9D5:m8CC1 2F9D6:m8D1B 2F9D7:m8D77 2F9D8:m27F2F",
  "2F9D9:m20804 2F9DA:m8DCB 2F9DB:m8DBC 2F9DC:m8DF0 2F9DD:m208DE 2F9DE:m8ED4 2F9DF:m8F38",
  "2F9E0:m285D2 2F9E1:m285ED 2F9E2:m9094 2F9E3:m90F1 2F9E4:m9111 2F9E5:m2872E 2F9E6:m911B",
  "2F9E7:m9238 2F9E8-2F9E9:s92D7 2F9EA:m927C 2F9EB:m93F9 2F9EC:m9415 2F9ED:m28BFA 2F9EE:m958B",
  "2F9EF:m4995 2F9F0:m95B7 2F9F1:m28D77 2F9F2:m49E6 2F9F3:m96C3 2F9F4:m5DB2 2F9F5:m9723",
  "2F9F6:m29145 2F9F7:m2921A 2F9F8:m4A6E 2F9F9:m4A76 2F9FA:m97E0 2F9FB:m2940A 2F9FC:m4AB2",
  "2F9FD:m29496 2F9FE:m980B 2F9FF:m980B 2FA00:m9829 2FA01:m295B6 2FA02:m98E2 2FA03:m4B33",
  "2FA04:m9929 2FA05:m99A7 2FA06:m99C2 2FA07:m99FE 2FA08:m4BCE 2FA09:m29B30 2FA0A:m9B12",
  "2FA0B:m9C40 2FA0C:m9CFD 2FA0D:m4CCE 2FA0E:m4CED 2FA0F:m9D67 2FA10:m2A0CE 2FA11:m4CF8",
  "2FA12:m2A105 2FA13:m2A20E 2FA14:m2A291 2FA15:m9EBB 2FA16:m4D56 2FA17:m9EF9 2FA18:m9EFE",
  "2FA19:m9F05 2FA1A:m9F0F 2FA1B:m9F16 2FA1C:m9F3B 2FA1D:m2A600 30000-3134A:v 31350-33479:v",
  "E0100-E01EF:i"]

end ScrapeCourier.Idna.Mapping
