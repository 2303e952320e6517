import Backoffice.Idna.Rule

/-! # The mapping table of internationalized domain names

The rule of every code point in the mapping of internationalized domain names (Unicode
data version 17.0.0), as runs: a run starts at a code point and holds up to
the next. -/

namespace Backoffice

namespace Idna

/-- **The rule of each code point.** -/
def mappingTable : RangeMap Rule := RangeMap.ofText Rule.ofToken
  (String.join [
    "0:v,41:s20,5b:v,80:x,a0:s-80,a1:v,a8:m20.308,a9:v,aa:s-49,ab:v,ad:i,ae:v,af:m20.304,b0:v,",
    "b2:s-80,b4:m20.301,b5:s307,b6:v,b8:m20.327,b9:s-88,ba:s-4b,bb:v,bc:m31.2044.34,",
    "bd:m31.2044.32,be:m33.2044.34,bf:v,c0:s20,d7:v,d8:s20,df:d,e0:v,100:s1,101:v,102:s1,103:v,",
    "104:s1,105:v,106:s1,107:v,108:s1,109:v,10a:s1,10b:v,10c:s1,10d:v,10e:s1,10f:v,110:s1,111:v,",
    "112:s1,113:v,114:s1,115:v,116:s1,117:v,118:s1,119:v,11a:s1,11b:v,11c:s1,11d:v,11e:s1,11f:v,",
    "120:s1,121:v,122:s1,123:v,124:s1,125:v,126:s1,127:v,128:s1,129:v,12a:s1,12b:v,12c:s1,12d:v,",
    "12e:s1,12f:v,130:m69.307,131:v,132:m69.6a,134:s1,135:v,136:s1,137:v,139:s1,13a:v,13b:s1,",
    "13c:v,13d:s1,13e:v,13f:m6c.b7,141:s1,142:v,143:s1,144:v,145:s1,146:v,147:s1,148:v,",
    "149:m2bc.6e,14a:s1,14b:v,14c:s1,14d:v,14e:s1,14f:v,150:s1,151:v,152:s1,153:v,154:s1,155:v,",
    "156:s1,157:v,158:s1,159:v,15a:s1,15b:v,15c:s1,15d:v,15e:s1,15f:v,160:s1,161:v,162:s1,163:v,",
    "164:s1,165:v,166:s1,167:v,168:s1,169:v,16a:s1,16b:v,16c:s1,16d:v,16e:s1,16f:v,170:s1,171:v,",
    "172:s1,173:v,174:s1,175:v,176:s1,177:v,178:s-79,179:s1,17a:v,17b:s1,17c:v,17d:s1,17e:v,",
    "17f:s-10c,180:v,181:sd2,182:s1,183:v,184:s1,185:v,186:sce,187:s1,188:v,189:scd,18b:s1,18c:v,",
    "18e:s4f,18f:sca,190:scb,191:s1,192:v,193:scd,194:scf,195:v,196:sd3,197:sd1,198:s1,199:v,",
    "19c:sd3,19d:sd5,19e:v,19f:sd6,1a0:s1,1a1:v,1a2:s1,1a3:v,1a4:s1,1a5:v,1a6:sda,1a7:s1,1a8:v,",
    "1a9:sda,1aa:v,1ac:s1,1ad:v,1ae:sda,1af:s1,1b0:v,1b1:sd9,1b3:s1,1b4:v,1b5:s1,1b6:v,1b7:sdb,",
    "1b8:s1,1b9:v,1bc:s1,1bd:v,1c4:m64.17e,1c7:m6c.6a,1ca:m6e.6a,1cd:s1,1ce:v,1cf:s1,1d0:v,",
    "1d1:s1,1d2:v,1d3:s1,1d4:v,1d5:s1,1d6:v,1d7:s1,1d8:v,1d9:s1,1da:v,1db:s1,1dc:v,1de:s1,1df:v,",
    "1e0:s1,1e1:v,1e2:s1,1e3:v,1e4:s1,1e5:v,1e6:s1,1e7:v,1e8:s1,1e9:v,1ea:s1,1eb:v,1ec:s1,1ed:v,",
    "1ee:s1,1ef:v,1f1:m64.7a,1f4:s1,1f5:v,1f6:s-61,1f7:s-38,1f8:s1,1f9:v,1fa:s1,1fb:v,1fc:s1,",
    "1fd:v,1fe:s1,1ff:v,200:s1,201:v,202:s1,203:v,204:s1,205:v,206:s1,207:v,208:s1,209:v,20a:s1,",
    "20b:v,20c:s1,20d:v,20e:s1,20f:v,210:s1,211:v,212:s1,213:v,214:s1,215:v,216:s1,217:v,218:s1,",
    "219:v,21a:s1,21b:v,21c:s1,21d:v,21e:s1,21f:v,220:s-82,221:v,222:s1,223:v,224:s1,225:v,",
    "226:s1,227:v,228:s1,229:v,22a:s1,22b:v,22c:s1,22d:v,22e:s1,22f:v,230:s1,231:v,232:s1,233:v,",
    "23a:s2a2b,23b:s1,23c:v,23d:s-a3,23e:s2a28,23f:v,241:s1,242:v,243:s-c3,244:s45,245:s47,",
    "246:s1,247:v,248:s1,249:v,24a:s1,24b:v,24c:s1,24d:v,24e:s1,24f:v,2b0:s-248,2b1:s-4b,",
    "2b2:s-248,2b3:s-241,2b4:s-3b,2b5:s-3a,2b6:s-35,2b7:s-240,2b8:s-23f,2b9:v,2d8:m20.306,",
    "2d9:m20.307,2da:m20.30a,2db:m20.328,2dc:m20.303,2dd:m20.30b,2de:v,2e0:s-7d,2e1:s-275,",
    "2e2:s-26f,2e3:s-26b,2e4:s-4f,2e5:v,340:s-40,342:v,343:s-30,344:m308.301,345:s74,346:v,34f:i,",
    "350:v,370:s1,371:v,372:s1,373:v,374:s-bb,375:v,376:s1,377:v,378:x,37a:m20.3b9,37b:v,",
    "37e:s-343,37f:s74,380:x,384:m20.301,385:m20.308.301,386:s26,387:s-2d0,388:s25,38b:x,38c:s40,",
    "38d:x,38e:s3f,390:v,391:s20,3a2:x,3a3:s20,3ac:v,3c2:d,3c3:v,3cf:s8,3d0:s-1e,3d1:s-19,",
    "3d2:s-d,3d3:s-6,3d4:s-9,3d5:s-f,3d6:s-16,3d7:v,3d8:s1,3d9:v,3da:s1,3db:v,3dc:s1,3dd:v,",
    "3de:s1,3df:v,3e0:s1,3e1:v,3e2:s1,3e3:v,3e4:s1,3e5:v,3e6:s1,3e7:v,3e8:s1,3e9:v,3ea:s1,3eb:v,",
    "3ec:s1,3ed:v,3ee:s1,3ef:v,3f0:s-36,3f1:s-30,3f2:s-2f,3f3:v,3f4:s-3c,3f5:s-40,3f6:v,3f7:s1,",
    "3f8:v,3f9:s-36,3fa:s1,3fb:v,3fd:s-82,400:s50,410:s20,430:v,460:s1,461:v,462:s1,463:v,464:s1,",
    "465:v,466:s1,467:v,468:s1,469:v,46a:s1,46b:v,46c:s1,46d:v,46e:s1,46f:v,470:s1,471:v,472:s1,",
    "473:v,474:s1,475:v,476:s1,477:v,478:s1,479:v,47a:s1,47b:v,47c:s1,47d:v,47e:s1,47f:v,480:s1,",
    "481:v,48a:s1,48b:v,48c:s1,48d:v,48e:s1,48f:v,490:s1,491:v,492:s1,493:v,494:s1,495:v,496:s1,",
    "497:v,498:s1,499:v,49a:s1,49b:v,49c:s1,49d:v,49e:s1,49f:v,4a0:s1,4a1:v,4a2:s1,4a3:v,4a4:s1,",
    "4a5:v,4a6:s1,4a7:v,4a8:s1,4a9:v,4aa:s1,4ab:v,4ac:s1,4ad:v,4ae:s1,4af:v,4b0:s1,4b1:v,4b2:s1,",
    "4b3:v,4b4:s1,4b5:v,4b6:s1,4b7:v,4b8:s1,4b9:v,4ba:s1,4bb:v,4bc:s1,4bd:v,4be:s1,4bf:v,4c0:sf,",
    "4c1:s1,4c2:v,4c3:s1,4c4:v,4c5:s1,4c6:v,4c7:s1,4c8:v,4c9:s1,4ca:v,4cb:s1,4cc:v,4cd:s1,4ce:v,",
    "4d0:s1,4d1:v,4d2:s1,4d3:v,4d4:s1,4d5:v,4d6:s1,4d7:v,4d8:s1,4d9:v,4da:s1,4db:v,4dc:s1,4dd:v,",
    "4de:s1,4df:v,4e0:s1,4e1:v,4e2:s1,4e3:v,4e4:s1,4e5:v,4e6:s1,4e7:v,4e8:s1,4e9:v,4ea:s1,4eb:v,",
    "4ec:s1,4ed:v,4ee:s1,4ef:v,4f0:s1,4f1:v,4f2:s1,4f3:v,4f4:s1,4f5:v,4f6:s1,4f7:v,4f8:s1,4f9:v,",
    "4fa:s1,4fb:v,4fc:s1,4fd:v,4fe:s1,4ff:v,500:s1,501:v,502:s1,503:v,504:s1,505:v,506:s1,507:v,",
    "508:s1,509:v,50a:s1,50b:v,50c:s1,50d:v,50e:s1,50f:v,510:s1,511:v,512:s1,513:v,514:s1,515:v,",
    "516:s1,517:v,518:s1,519:v,51a:s1,51b:v,51c:s1,51d:v,51e:s1,51f:v,520:s1,521:v,522:s1,523:v,",
    "524:s1,525:v,526:s1,527:v,528:s1,529:v,52a:s1,52b:v,52c:s1,52d:v,52e:s1,52f:v,530:x,531:s30,",
    "557:x,559:v,587:m565.582,588:v,58b:x,58d:v,590:x,591:v,5c8:x,5d0:v,5eb:x,5ef:v,5f5:x,606:v,",
    "61c:x,61d:v,675:m627.674,676:m648.674,677:m6c7.674,678:m64a.674,679:v,6dd:x,6de:v,70e:x,",
    "710:v,74b:x,74d:v,7b2:x,7c0:v,7fb:x,7fd:v,82e:x,830:v,83f:x,840:v,85c:x,85e:v,85f:x,860:v,",
    "86b:x,870:v,890:x,897:v,8e2:x,8e3:v,958:m915.93c,959:m916.93c,95a:m917.93c,95b:m91c.93c,",
    "95c:m921.93c,95d:m922.93c,95e:m92b.93c,95f:m92f.93c,960:v,984:x,985:v,98d:x,98f:v,991:x,",
    "993:v,9a9:x,9aa:v,9b1:x,9b2:v,9b3:x,9b6:v,9ba:x,9bc:v,9c5:x,9c7:v,9c9:x,9cb:v,9cf:x,9d7:v,",
    "9d8:x,9dc:m9a1.9bc,9dd:m9a2.9bc,9de:x,9df:m9af.9bc,9e0:v,9e4:x,9e6:v,9ff:x,a01:v,a04:x,",
    "a05:v,a0b:x,a0f:v,a11:x,a13:v,a29:x,a2a:v,a31:x,a32:v,a33:ma32.a3c,a34:x,a35:v,a36:ma38.a3c,",
    "a37:x,a38:v,a3a:x,a3c:v,a3d:x,a3e:v,a43:x,a47:v,a49:x,a4b:v,a4e:x,a51:v,a52:x,a59:ma16.a3c,",
    "a5a:ma17.a3c,a5b:ma1c.a3c,a5c:v,a5d:x,a5e:ma2b.a3c,a5f:x,a66:v,a77:x,a81:v,a84:x,a85:v,",
    "a8e:x,a8f:v,a92:x,a93:v,aa9:x,aaa:v,ab1:x,ab2:v,ab4:x,ab5:v,aba:x,abc:v,ac6:x,ac7:v,aca:x,",
    "acb:v,ace:x,ad0:v,ad1:x,ae0:v,ae4:x,ae6:v,af2:x,af9:v,b00:x,b01:v,b04:x,b05:v,b0d:x,b0f:v,",
    "b11:x,b13:v,b29:x,b2a:v,b31:x,b32:v,b34:x,b35:v,b3a:x,b3c:v,b45:x,b47:v,b49:x,b4b:v,b4e:x,",
    "b55:v,b58:x,b5c:mb21.b3c,b5d:mb22.b3c,b5e:x,b5f:v,b64:x,b66:v,b78:x,b82:v,b84:x,b85:v,b8b:x,",
    "b8e:v,b91:x,b92:v,b96:x,b99:v,b9b:x,b9c:v,b9d:x,b9e:v,ba0:x,ba3:v,ba5:x,ba8:v,bab:x,bae:v,",
    "bba:x,bbe:v,bc3:x,bc6:v,bc9:x,bca:v,bce:x,bd0:v,bd1:x,bd7:v,bd8:x,be6:v,bfb:x,c00:v,c0d:x,",
    "c0e:v,c11:x,c12:v,c29:x,c2a:v,c3a:x,c3c:v,c45:x,c46:v,c49:x,c4a:v,c4e:x,c55:v,c57:x,c58:v,",
    "c5b:x,c5c:v,c5e:x,c60:v,c64:x,c66:v,c70:x,c77:v,c8d:x,c8e:v,c91:x,c92:v,ca9:x,caa:v,cb4:x,",
    "cb5:v,cba:x,cbc:v,cc5:x,cc6:v,cc9:x,cca:v,cce:x,cd5:v,cd7:x,cdc:v,cdf:x,ce0:v,ce4:x,ce6:v,",
    "cf0:x,cf1:v,cf4:x,d00:v,d0d:x,d0e:v,d11:x,d12:v,d45:x,d46:v,d49:x,d4a:v,d50:x,d54:v,d64:x,",
    "d66:v,d80:x,d81:v,d84:x,d85:v,d97:x,d9a:v,db2:x,db3:v,dbc:x,dbd:v,dbe:x,dc0:v,dc7:x,dca:v,",
    "dcb:x,dcf:v,dd5:x,dd6:v,dd7:x,dd8:v,de0:x,de6:v,df0:x,df2:v,df5:x,e01:v,e33:me4d.e32,e34:v,",
    "e3b:x,e3f:v,e5c:x,e81:v,e83:x,e84:v,e85:x,e86:v,e8b:x,e8c:v,ea4:x,ea5:v,ea6:x,ea7:v,",
    "eb3:mecd.eb2,eb4:v,ebe:x,ec0:v,ec5:x,ec6:v,ec7:x,ec8:v,ecf:x,ed0:v,eda:x,edc:meab.e99,",
    "edd:meab.ea1,ede:v,ee0:x,f00:v,f0c:s-1,f0d:v,f43:mf42.fb7,f44:v,f48:x,f49:v,f4d:mf4c.fb7,",
    "f4e:v,f52:mf51.fb7,f53:v,f57:mf56.fb7,f58:v,f5c:mf5b.fb7,f5d:v,f69:mf40.fb5,f6a:v,f6d:x,",
    "f71:v,f73:mf71.f72,f74:v,f75:mf71.f74,f76:mfb2.f80,f77:mfb2.f71.f80,f78:mfb3.f80,",
    "f79:mfb3.f71.f80,f7a:v,f81:mf71.f80,f82:v,f93:mf92.fb7,f94:v,f98:x,f99:v,f9d:mf9c.fb7,f9e:v,",
    "fa2:mfa1.fb7,fa3:v,fa7:mfa6.fb7,fa8:v,fac:mfab.fb7,fad:v,fb9:mf90.fb5,fba:v,fbd:x,fbe:v,",
    "fcd:x,fce:v,fdb:x,1000:v,10a0:s1c60,10c6:x,10c7:s1c60,10c8:x,10cd:s1c60,10ce:x,10d0:v,",
    "10fc:s-20,10fd:v,115f:i,1161:v,1249:x,124a:v,124e:x,1250:v,1257:x,1258:v,1259:x,125a:v,",
    "125e:x,1260:v,1289:x,128a:v,128e:x,1290:v,12b1:x,12b2:v,12b6:x,12b8:v,12bf:x,12c0:v,12c1:x,",
    "12c2:v,12c6:x,12c8:v,12d7:x,12d8:v,1311:x,1312:v,1316:x,1318:v,135b:x,135d:v,137d:x,1380:v,",
    "139a:x,13a0:v,13f6:x,13f8:s-8,13fe:x,1400:v,1680:x,1681:v,169d:x,16a0:v,16f9:x,1700:v,",
    "1716:x,171f:v,1737:x,1740:v,1754:x,1760:v,176d:x,176e:v,1771:x,1772:v,1774:x,1780:v,17b4:i,",
    "17b6:v,17de:x,17e0:v,17ea:x,17f0:v,17fa:x,1800:v,180b:i,1810:v,181a:x,1820:v,1879:x,1880:v,",
    "18ab:x,18b0:v,18f6:x,1900:v,191f:x,1920:v,192c:x,1930:v,193c:x,1940:v,1941:x,1944:v,196e:x,",
    "1970:v,1975:x,1980:v,19ac:x,19b0:v,19ca:x,19d0:v,19db:x,19de:v,1a1c:x,1a1e:v,1a5f:x,1a60:v,",
    "1a7d:x,1a7f:v,1a8a:x,1a90:v,1a9a:x,1aa0:v,1aae:x,1ab0:v,1ade:x,1ae0:v,1aec:x,1b00:v,1b4d:x,",
    "1b4e:v,1bf4:x,1bfc:v,1c38:x,1c3b:v,1c4a:x,1c4d:v,1c80:s-184e,1c81:s-184d,1c82:s-1844,",
    "1c83:s-1842,1c84:m442,1c86:s-183c,1c87:s-1824,1c88:s89c3,1c89:s1,1c8a:v,1c8b:x,1c90:s-bc0,",
    "1cbb:x,1cbd:s-bc0,1cc0:v,1cc8:x,1cd0:v,1cfb:x,1d00:v,1d2c:s-1ccb,1d2d:s-1c47,1d2e:s-1ccc,",
    "1d2f:v,1d30:s-1ccc,1d32:s-1b55,1d33:s-1ccc,1d3b:v,1d3c:s-1ccd,1d3d:s-1b1a,1d3e:s-1cce,",
    "1d3f:s-1ccd,1d40:s-1ccc,1d42:s-1ccb,1d43:s-1ce2,1d44:s-1af4,1d46:s-44,1d47:s-1ce5,",
    "1d48:s-1ce4,1d4a:s-1af1,1d4b:s-1af0,1d4d:s-1ce6,1d4e:v,1d4f:s-1ce4,1d50:s-1ce3,1d51:s-1c06,",
    "1d52:s-1ce3,1d53:s-1aff,1d54:s-3e,1d56:s-1ce6,1d57:s-1ce3,1d59:s-3c,1d5a:s-1aeb,1d5b:s-1ce5,",
    "1d5c:s-37,1d5d:s-19ab,1d60:s-199a,1d62:s-1cf9,1d63:s-1cf1,1d64:s-1cef,1d66:s-19b4,",
    "1d68:s-19a7,1d69:s-19a3,1d6b:v,1d78:s-193b,1d79:v,1d9b:s-1b49,1d9c:s-1d39,1d9d:s-1b48,",
    "1d9e:s-1cae,1d9f:s-1b43,1da0:s-1d3a,1da1:s-1b42,1da2:s-1b41,1da3:s-1b3e,1da4:s-1b3c,",
    "1da7:s-2c,1da8:s-1b0b,1da9:s-1b3c,1daa:s-25,1dab:s-1b0c,1dac:s-1b3b,1dad:s-1b3d,1dae:s-1b3c,",
    "1db2:s-1b3a,1db3:s-1b31,1db5:s-1c0a,1db6:s-1b2d,1db8:s-9c,1db9:s-1b2e,1dbb:s-1d41,",
    "1dbc:s-1b2c,1dbf:s-1a07,1dc0:v,1e00:s1,1e01:v,1e02:s1,1e03:v,1e04:s1,1e05:v,1e06:s1,1e07:v,",
    "1e08:s1,1e09:v,1e0a:s1,1e0b:v,1e0c:s1,1e0d:v,1e0e:s1,1e0f:v,1e10:s1,1e11:v,1e12:s1,1e13:v,",
    "1e14:s1,1e15:v,1e16:s1,1e17:v,1e18:s1,1e19:v,1e1a:s1,1e1b:v,1e1c:s1,1e1d:v,1e1e:s1,1e1f:v,",
    "1e20:s1,1e21:v,1e22:s1,1e23:v,1e24:s1,1e25:v,1e26:s1,1e27:v,1e28:s1,1e29:v,1e2a:s1,1e2b:v,",
    "1e2c:s1,1e2d:v,1e2e:s1,1e2f:v,1e30:s1,1e31:v,1e32:s1,1e33:v,1e34:s1,1e35:v,1e36:s1,1e37:v,",
    "1e38:s1,1e39:v,1e3a:s1,1e3b:v,1e3c:s1,1e3d:v,1e3e:s1,1e3f:v,1e40:s1,1e41:v,1e42:s1,1e43:v,",
    "1e44:s1,1e45:v,1e46:s1,1e47:v,1e48:s1,1e49:v,1e4a:s1,1e4b:v,1e4c:s1,1e4d:v,1e4e:s1,1e4f:v,",
    "1e50:s1,1e51:v,1e52:s1,1e53:v,1e54:s1,1e55:v,1e56:s1,1e57:v,1e58:s1,1e59:v,1e5a:s1,1e5b:v,",
    "1e5c:s1,1e5d:v,1e5e:s1,1e5f:v,1e60:s1,1e61:v,1e62:s1,1e63:v,1e64:s1,1e65:v,1e66:s1,1e67:v,",
    "1e68:s1,1e69:v,1e6a:s1,1e6b:v,1e6c:s1,1e6d:v,1e6e:s1,1e6f:v,1e70:s1,1e71:v,1e72:s1,1e73:v,",
    "1e74:s1,1e75:v,1e76:s1,1e77:v,1e78:s1,1e79:v,1e7a:s1,1e7b:v,1e7c:s1,1e7d:v,1e7e:s1,1e7f:v,",
    "1e80:s1,1e81:v,1e82:s1,1e83:v,1e84:s1,1e85:v,1e86:s1,1e87:v,1e88:s1,1e89:v,1e8a:s1,1e8b:v,",
    "1e8c:s1,1e8d:v,1e8e:s1,1e8f:v,1e90:s1,1e91:v,1e92:s1,1e93:v,1e94:s1,1e95:v,1e9a:m61.2be,",
    "1e9b:s-3a,1e9c:v,1e9e:s-1dbf,1e9f:v,1ea0:s1,1ea1:v,1ea2:s1,1ea3:v,1ea4:s1,1ea5:v,1ea6:s1,",
    "1ea7:v,1ea8:s1,1ea9:v,1eaa:s1,1eab:v,1eac:s1,1ead:v,1eae:s1,1eaf:v,1eb0:s1,1eb1:v,1eb2:s1,",
    "1eb3:v,1eb4:s1,1eb5:v,1eb6:s1,1eb7:v,1eb8:s1,1eb9:v,1eba:s1,1ebb:v,1ebc:s1,1ebd:v,1ebe:s1,",
    "1ebf:v,1ec0:s1,1ec1:v,1ec2:s1,1ec3:v,1ec4:s1,1ec5:v,1ec6:s1,1ec7:v,1ec8:s1,1ec9:v,1eca:s1,",
    "1ecb:v,1ecc:s1,1ecd:v,1ece:s1,1ecf:v,1ed0:s1,1ed1:v,1ed2:s1,1ed3:v,1ed4:s1,1ed5:v,1ed6:s1,",
    "1ed7:v,1ed8:s1,1ed9:v,1eda:s1,1edb:v,1edc:s1,1edd:v,1ede:s1,1edf:v,1ee0:s1,1ee1:v,1ee2:s1,",
    "1ee3:v,1ee4:s1,1ee5:v,1ee6:s1,1ee7:v,1ee8:s1,1ee9:v,1eea:s1,1eeb:v,1eec:s1,1eed:v,1eee:s1,",
    "1eef:v,1ef0:s1,1ef1:v,1ef2:s1,1ef3:v,1ef4:s1,1ef5:v,1ef6:s1,1ef7:v,1ef8:s1,1ef9:v,1efa:s1,",
    "1efb:v,1efc:s1,1efd:v,1efe:s1,1eff:v,1f08:s-8,1f10:v,1f16:x,1f18:s-8,1f1e:x,1f20:v,1f28:s-8,",
    "1f30:v,1f38:s-8,1f40:v,1f46:x,1f48:s-8,1f4e:x,1f50:v,1f58:x,1f59:s-8,1f5a:x,1f5b:s-8,1f5c:x,",
    "1f5d:s-8,1f5e:x,1f5f:s-8,1f60:v,1f68:s-8,1f70:v,1f71:s-1bc5,1f72:v,1f73:s-1bc6,1f74:v,",
    "1f75:s-1bc7,1f76:v,1f77:s-1bc8,1f78:v,1f79:s-1bad,1f7a:v,1f7b:s-1bae,1f7c:v,1f7d:s-1baf,",
    "1f7e:x,1f80:m1f00.3b9,1f81:m1f01.3b9,1f82:m1f02.3b9,1f83:m1f03.3b9,1f84:m1f04.3b9,",
    "1f85:m1f05.3b9,1f86:m1f06.3b9,1f87:m1f07.3b9,1f88:m1f00.3b9,1f89:m1f01.3b9,1f8a:m1f02.3b9,",
    "1f8b:m1f03.3b9,1f8c:m1f04.3b9,1f8d:m1f05.3b9,1f8e:m1f06.3b9,1f8f:m1f07.3b9,1f90:m1f20.3b9,",
    "1f91:m1f21.3b9,1f92:m1f22.3b9,1f93:m1f23.3b9,1f94:m1f24.3b9,1f95:m1f25.3b9,1f96:m1f26.3b9,",
    "1f97:m1f27.3b9,1f98:m1f20.3b9,1f99:m1f21.3b9,1f9a:m1f22.3b9,1f9b:m1f23.3b9,1f9c:m1f24.3b9,",
    "1f9d:m1f25.3b9,1f9e:m1f26.3b9,1f9f:m1f27.3b9,1fa0:m1f60.3b9,1fa1:m1f61.3b9,1fa2:m1f62.3b9,",
    "1fa3:m1f63.3b9,1fa4:m1f64.3b9,1fa5:m1f65.3b9,1fa6:m1f66.3b9,1fa7:m1f67.3b9,1fa8:m1f60.3b9,",
    "1fa9:m1f61.3b9,1faa:m1f62.3b9,1fab:m1f63.3b9,1fac:m1f64.3b9,1fad:m1f65.3b9,1fae:m1f66.3b9,",
    "1faf:m1f67.3b9,1fb0:v,1fb2:m1f70.3b9,1fb3:m3b1.3b9,1fb4:m3ac.3b9,1fb5:x,1fb6:v,",
    "1fb7:m1fb6.3b9,1fb8:s-8,1fba:s-4a,1fbb:s-1c0f,1fbc:m3b1.3b9,1fbd:m20.313,1fbe:s-1c05,",
    "1fbf:m20.313,1fc0:m20.342,1fc1:m20.308.342,1fc2:m1f74.3b9,1fc3:m3b7.3b9,1fc4:m3ae.3b9,",
    "1fc5:x,1fc6:v,1fc7:m1fc6.3b9,1fc8:s-56,1fc9:s-1c1c,1fca:s-56,1fcb:s-1c1d,1fcc:m3b7.3b9,",
    "1fcd:m20.313.300,1fce:m20.313.301,1fcf:m20.313.342,1fd0:v,1fd3:s-1c43,1fd4:x,1fd6:v,",
    "1fd8:s-8,1fda:s-64,1fdb:s-1c2c,1fdc:x,1fdd:m20.314.300,1fde:m20.314.301,1fdf:m20.314.342,",
    "1fe0:v,1fe3:s-1c33,1fe4:v,1fe8:s-8,1fea:s-70,1feb:s-1c1e,1fec:s-7,1fed:m20.308.300,",
    "1fee:m20.308.301,1fef:s-1f8f,1ff0:x,1ff2:m1f7c.3b9,1ff3:m3c9.3b9,1ff4:m3ce.3b9,1ff5:x,",
    "1ff6:v,1ff7:m1ff6.3b9,1ff8:s-80,1ff9:s-1c2d,1ffa:s-7e,1ffb:s-1c2d,1ffc:m3c9.3b9,",
    "1ffd:m20.301,1ffe:m20.314,1fff:x,2000:m20,200b:i,200c:d,200e:x,2010:v,2011:s-1,2012:v,",
    "2017:m20.333,2018:v,2024:x,2027:v,2028:x,202f:s-200f,2030:v,2033:m2032.2032,",
    "2034:m2032.2032.2032,2035:v,2036:m2035.2035,2037:m2035.2035.2035,2038:v,203c:m21.21,203d:v,",
    "203e:m20.305,203f:v,2047:m3f.3f,2048:m3f.21,2049:m21.3f,204a:v,2057:m2032.2032.2032.2032,",
    "2058:v,205f:s-203f,2060:i,2065:x,206a:i,2070:s-2040,2071:s-2008,2072:x,2074:s-2040,",
    "207a:s-204f,207b:s197,207c:s-203f,207d:s-2055,207f:s-2011,2080:s-2050,208a:s-205f,208b:s187,",
    "208c:s-204f,208d:s-2065,208f:x,2090:s-202f,2091:s-202c,2092:s-2023,2093:s-201b,2094:s-1e3b,",
    "2095:s-202d,2096:s-202b,209a:s-202a,209b:s-2028,209d:x,20a0:v,20a8:m72.73,20a9:v,20c2:x,",
    "20d0:v,20f1:x,2100:m61.2f.63,2101:m61.2f.73,2102:s-209f,2103:mb0.63,2104:v,2105:m63.2f.6f,",
    "2106:m63.2f.75,2107:s-1eac,2108:v,2109:mb0.66,210a:s-20a3,210b:m68,210f:s-1fe8,2110:m69,",
    "2112:m6c,2114:v,2115:s-20a7,2116:m6e.6f,2117:v,2119:s-20a9,211b:m72,211e:v,2120:m73.6d,",
    "2121:m74.65.6c,2122:m74.6d,2123:v,2124:s-20aa,2125:v,2126:s-1d5d,2127:v,2128:s-20ae,2129:v,",
    "212a:s-20bf,212b:s-2046,212c:s-20ca,212e:v,212f:m65,2131:s-20cb,2132:s1c,2133:s-20c6,",
    "2134:s-20c5,2135:s-1b65,2139:s-20d0,213a:v,213b:m66.61.78,213c:s-1d7c,213d:m3b3,213f:s-1d7f,",
    "2140:sd1,2141:v,2145:m64,2147:s-20e2,2148:s-20df,214a:v,2150:m31.2044.37,2151:m31.2044.39,",
    "2152:m31.2044.31.30,2153:m31.2044.33,2154:m32.2044.33,2155:m31.2044.35,2156:m32.2044.35,",
    "2157:m33.2044.35,2158:m34.2044.35,2159:m31.2044.36,215a:m35.2044.36,215b:m31.2044.38,",
    "215c:m33.2044.38,215d:m35.2044.38,215e:m37.2044.38,215f:m31.2044,2160:s-20f7,2161:m69.69,",
    "2162:m69.69.69,2163:m69.76,2164:s-20ee,2165:m76.69,2166:m76.69.69,2167:m76.69.69.69,",
    "2168:m69.78,2169:s-20f1,216a:m78.69,216b:m78.69.69,216c:s-2100,216d:s-210a,216f:s-2102,",
    "2170:s-2107,2171:m69.69,2172:m69.69.69,2173:m69.76,2174:s-20fe,2175:m76.69,2176:m76.69.69,",
    "2177:m76.69.69.69,2178:m69.78,2179:s-2101,217a:m78.69,217b:m78.69.69,217c:s-2110,",
    "217d:s-211a,217f:s-2112,2180:v,2183:s1,2184:v,2189:m30.2044.33,218a:v,218c:x,2190:v,",
    "222c:m222b.222b,222d:m222b.222b.222b,222e:v,222f:m222e.222e,2230:m222e.222e.222e,2231:v,",
    "2329:scdf,232b:v,242a:x,2440:v,244b:x,2460:s-242f,2469:m31.30,246a:m31.31,246b:m31.32,",
    "246c:m31.33,246d:m31.34,246e:m31.35,246f:m31.36,2470:m31.37,2471:m31.38,2472:m31.39,",
    "2473:m32.30,2474:m28.31.29,2475:m28.32.29,2476:m28.33.29,2477:m28.34.29,2478:m28.35.29,",
    "2479:m28.36.29,247a:m28.37.29,247b:m28.38.29,247c:m28.39.29,247d:m28.31.30.29,",
    "247e:m28.31.31.29,247f:m28.31.32.29,2480:m28.31.33.29,2481:m28.31.34.29,2482:m28.31.35.29,",
    "2483:m28.31.36.29,2484:m28.31.37.29,2485:m28.31.38.29,2486:m28.31.39.29,2487:m28.32.30.29,",
    "2488:x,249c:m28.61.29,249d:m28.62.29,249e:m28.63.29,249f:m28.64.29,24a0:m28.65.29,",
    "24a1:m28.66.29,24a2:m28.67.29,24a3:m28.68.29,24a4:m28.69.29,24a5:m28.6a.29,24a6:m28.6b.29,",
    "24a7:m28.6c.29,24a8:m28.6d.29,24a9:m28.6e.29,24aa:m28.6f.29,24ab:m28.70.29,24ac:m28.71.29,",
    "24ad:m28.72.29,24ae:m28.73.29,24af:m28.74.29,24b0:m28.75.29,24b1:m28.76.29,24b2:m28.77.29,",
    "24b3:m28.78.29,24b4:m28.79.29,24b5:m28.7a.29,24b6:s-2455,24d0:s-246f,24ea:s-24ba,24eb:v,",
    "2a0c:m222b.222b.222b.222b,2a0d:v,2a74:m3a.3a.3d,2a75:m3d.3d,2a76:m3d.3d.3d,2a77:v,",
    "2adc:m2add.338,2add:v,2b74:x,2b76:v,2c00:s30,2c30:v,2c60:s1,2c61:v,2c62:s-29f7,2c63:s-ee6,",
    "2c64:s-29e7,2c65:v,2c67:s1,2c68:v,2c69:s1,2c6a:v,2c6b:s1,2c6c:v,2c6d:s-2a1c,2c6e:s-29fd,",
    "2c6f:s-2a1f,2c70:s-2a1e,2c71:v,2c72:s1,2c73:v,2c75:s1,2c76:v,2c7c:s-2c12,2c7d:s-2c07,",
    "2c7e:s-2a3f,2c80:s1,2c81:v,2c82:s1,2c83:v,2c84:s1,2c85:v,2c86:s1,2c87:v,2c88:s1,2c89:v,",
    "2c8a:s1,2c8b:v,2c8c:s1,2c8d:v,2c8e:s1,2c8f:v,2c90:s1,2c91:v,2c92:s1,2c93:v,2c94:s1,2c95:v,",
    "2c96:s1,2c97:v,2c98:s1,2c99:v,2c9a:s1,2c9b:v,2c9c:s1,2c9d:v,2c9e:s1,2c9f:v,2ca0:s1,2ca1:v,",
    "2ca2:s1,2ca3:v,2ca4:s1,2ca5:v,2ca6:s1,2ca7:v,2ca8:s1,2ca9:v,2caa:s1,2cab:v,2cac:s1,2cad:v,",
    "2cae:s1,2caf:v,2cb0:s1,2cb1:v,2cb2:s1,2cb3:v,2cb4:s1,2cb5:v,2cb6:s1,2cb7:v,2cb8:s1,2cb9:v,",
    "2cba:s1,2cbb:v,2cbc:s1,2cbd:v,2cbe:s1,2cbf:v,2cc0:s1,2cc1:v,2cc2:s1,2cc3:v,2cc4:s1,2cc5:v,",
    "2cc6:s1,2cc7:v,2cc8:s1,2cc9:v,2cca:s1,2ccb:v,2ccc:s1,2ccd:v,2cce:s1,2ccf:v,2cd0:s1,2cd1:v,",
    "2cd2:s1,2cd3:v,2cd4:s1,2cd5:v,2cd6:s1,2cd7:v,2cd8:s1,2cd9:v,2cda:s1,2cdb:v,2cdc:s1,2cdd:v,",
    "2cde:s1,2cdf:v,2ce0:s1,2ce1:v,2ce2:s1,2ce3:v,2ceb:s1,2cec:v,2ced:s1,2cee:v,2cf2:s1,2cf3:v,",
    "2cf4:x,2cf9:v,2d26:x,2d27:v,2d28:x,2d2d:v,2d2e:x,2d30:v,2d68:x,2d6f:s-e,2d70:v,2d71:x,",
    "2d7f:v,2d97:x,2da0:v,2da7:x,2da8:v,2daf:x,2db0:v,2db7:x,2db8:v,2dbf:x,2dc0:v,2dc7:x,2dc8:v,",
    "2dcf:x,2dd0:v,2dd7:x,2dd8:v,2ddf:x,2de0:v,2e5e:x,2e80:v,2e9a:x,2e9b:v,2e9f:s3d2e,2ea0:v,",
    "2ef3:s70ac,2ef4:x,2f00:s1f00,2f01:s1f27,2f02:s1f34,2f03:s1f3c,2f04:s1f55,2f05:s1f80,",
    "2f06:s1f86,2f07:s1f99,2f08:s1fb2,2f09:s2236,2f0a:s225b,2f0b:s2260,2f0c:s2276,2f0d:s2289,",
    "2f0e:s229d,2f0f:s22d1,2f10:s22e5,2f11:s22ef,2f12:s2389,2f13:s23e6,2f14:s2401,2f15:s2405,",
    "2f16:s2422,2f17:s242a,2f18:s2444,2f19:s2450,2f1a:s2468,2f1b:s249b,2f1c:s24ac,2f1d:s24c6,",
    "2f1e:s27b9,2f1f:s2800,2f20:s29cb,2f21:s29e1,2f22:s29e8,2f23:s29f2,2f24:s2a03,2f25:s2a4e,",
    "2f26:s2c2a,2f27:s2c59,2f28:s2cd0,2f29:s2ce6,2f2a:s2cf8,2f2b:s2d0d,2f2c:s2d42,2f2d:s2d44,",
    "2f2e:s2ead,2f2f:s2eb6,2f30:s2ec1,2f31:s2ecd,2f32:s2f40,2f33:s2f47,2f34:s2f4b,2f35:s2fbf,",
    "2f36:s2fc8,2f37:s2fd4,2f38:s2fdb,2f39:s3017,2f3a:s3027,2f3b:s3038,2f3c:s3087,2f3d:s32cb,",
    "2f3e:s32f8,2f3f:s330c,2f40:s35ef,2f41:s35f3,2f42:s3645,2f43:s3654,2f44:s3660,2f45:s3674,",
    "2f46:s369a,2f47:s369e,2f48:s37a8,2f49:s37bf,2f4a:s37de,2f4b:s3bd5,2f4c:s3c16,2f4d:s3c2c,",
    "2f4e:s3c65,2f4f:s3c7c,2f50:s3c84,2f51:s3c8a,2f52:s3cbd,2f53:s3cc1,2f54:s3ce0,2f55:s4116,",
    "2f56:s42d4,2f57:s42df,2f58:s42e3,2f59:s42e6,2f5a:s42ed,2f5b:s42fe,2f5c:s42ff,2f5d:s434f,",
    "2f5e:s4426,2f5f:s442a,2f60:s457c,2f61:s4585,2f62:s45b6,2f63:s45bc,2f64:s45c4,2f65:s45cb,",
    "2f66:s4625,2f67:s462b,2f68:s470e,2f69:s4714,2f6a:s4744,2f6b:s4754,2f6c:s4782,2f6d:s486e,",
    "2f6e:s4874,2f6f:s4884,2f70:s49ca,2f71:s4a47,2f72:s4a4c,2f73:s4b01,2f74:s4b57,2f75:s4b84,",
    "2f76:s4cfd,2f77:s4d81,2f78:s4fbe,2f79:s4fd8,2f7a:s5010,2f7b:s5042,2f7c:s5085,2f7d:s508f,",
    "2f7e:s5094,2f7f:s50b4,2f80:s50ff,2f81:s5108,2f82:s5261,2f83:s5267,2f84:s526f,2f85:s5277,",
    "2f86:s5286,2f87:s5294,2f88:s5297,2f89:s52e5,2f8a:s52e8,2f8b:s52ed,2f8c:s56c1,2f8d:s56de,",
    "2f8e:s58b2,2f8f:s58bd,2f90:s58d3,2f91:s59ed,2f92:s59f9,2f93:s5a3f,2f94:s5a6c,2f95:s5ca2,",
    "2f96:s5cb0,2f97:s5cbe,2f98:s5ce0,2f99:s5d04,2f9a:s5dca,2f9b:s5dd5,2f9c:s5e17,2f9d:s5f0e,",
    "2f9e:s5f2c,2f9f:s5ffc,2fa0:s6010,2fa1:s6014,2fa2:s60ef,2fa3:s61a6,2fa4:s6222,2fa5:s6227,",
    "2fa6:s622b,2fa7:s65d0,2fa8:s65d8,2fa9:s6673,2faa:s670c,2fab:s670e,2fac:s673c,2fad:s67a4,",
    "2fae:s67b0,2faf:s67b3,2fb0:s67b9,2fb1:s681a,2fb2:s683b,2fb3:s6840,2fb4:s684d,2fb5:s68f3,",
    "2fb6:s6925,2fb7:s6928,2fb8:s69de,2fb9:s69e0,2fba:s69f2,2fbb:s6aed,2fbc:s6b1c,2fbd:s6b22,",
    "2fbe:s6b67,2fbf:s6b70,2fc0:s6b72,2fc1:s6b7b,2fc2:s6b98,2fc3:s6d22,2fc4:s6eb1,2fc5:s6eba,",
    "2fc6:s6edf,2fc7:s6ef4,2fc8:s6efb,2fc9:s6f04,2fca:s6f07,2fcb:s6f2e,2fcc:s6f31,2fcd:s6f41,",
    "2fce:s6f45,2fcf:s6f51,2fd0:s6f6b,2fd1:s6f79,2fd2:s6f80,2fd3:s6fba,2fd4:s6fc8,2fd5:s6fcb,",
    "2fd6:x,3000:s-2fe0,3001:v,3002:s-2fd4,3003:v,3036:s-24,3037:v,3038:s2309,3039:s230b,303b:v,",
    "3040:x,3041:v,3097:x,3099:v,309b:m20.3099,309c:m20.309a,309d:v,309f:m3088.308a,30a0:v,",
    "30ff:m30b3.30c8,3100:x,3105:v,3130:x,3131:s-2031,3133:s-1f89,3134:s-2032,3135:s-1f89,",
    "3137:s-2034,313a:s-1f8a,3140:s-2026,3141:s-203b,3144:s-2023,3145:s-203c,314f:s-1fee,3164:i,",
    "3165:s-2051,3167:s-1fa0,3169:s-1f9d,316a:s-1f9c,316b:s-1f98,316c:s-1f95,316d:s-1f94,",
    "316e:s-2052,316f:s-1f92,3170:s-1f91,3171:s-2054,3173:s-2053,3174:s-2052,3176:s-204f,",
    "3177:s-204e,3178:s-204d,317d:s-204b,317e:s-2048,317f:s-203f,3180:s-2039,3181:s-2035,",
    "3182:s-1f91,3184:s-202d,3187:s-2003,3189:s-2001,318a:s-1ff9,318c:s-1ff8,318d:s-1fef,",
    "318e:s-1fed,318f:x,3190:v,3192:s1c6e,3193:s1cf9,3194:s1c75,3195:s2546,3196:s1c74,3197:s1c96,",
    "3198:s1c73,3199:s4399,319a:s1cbf,319b:s1c7e,319c:s1c65,319d:s278c,319e:s2592,319f:s1d1b,",
    "31a0:v,31e6:x,31f0:v,3200:m28.1100.29,3201:m28.1102.29,3202:m28.1103.29,3203:m28.1105.29,",
    "3204:m28.1106.29,3205:m28.1107.29,3206:m28.1109.29,3207:m28.110b.29,3208:m28.110c.29,",
    "3209:m28.110e.29,320a:m28.110f.29,320b:m28.1110.29,320c:m28.1111.29,320d:m28.1112.29,",
    "320e:m28.ac00.29,320f:m28.b098.29,3210:m28.b2e4.29,3211:m28.b77c.29,3212:m28.b9c8.29,",
    "3213:m28.bc14.29,3214:m28.c0ac.29,3215:m28.c544.29,3216:m28.c790.29,3217:m28.cc28.29,",
    "3218:m28.ce74.29,3219:m28.d0c0.29,321a:m28.d30c.29,321b:m28.d558.29,321c:m28.c8fc.29,",
    "321d:m28.c624.c804.29,321e:m28.c624.d6c4.29,321f:x,3220:m28.4e00.29,3221:m28.4e8c.29,",
    "3222:m28.4e09.29,3223:m28.56db.29,3224:m28.4e94.29,3225:m28.516d.29,3226:m28.4e03.29,",
    "3227:m28.516b.29,3228:m28.4e5d.29,3229:m28.5341.29,322a:m28.6708.29,322b:m28.706b.29,",
    "322c:m28.6c34.29,322d:m28.6728.29,322e:m28.91d1.29,322f:m28.571f.29,3230:m28.65e5.29,",
    "3231:m28.682a.29,3232:m28.6709.29,3233:m28.793e.29,3234:m28.540d.29,3235:m28.7279.29,",
    "3236:m28.8ca1.29,3237:m28.795d.29,3238:m28.52b4.29,3239:m28.4ee3.29,323a:m28.547c.29,",
    "323b:m28.5b66.29,323c:m28.76e3.29,323d:m28.4f01.29,323e:m28.8cc7.29,323f:m28.5354.29,",
    "3240:m28.796d.29,3241:m28.4f11.29,3242:m28.81ea.29,3243:m28.81f3.29,3244:s230b,3245:s2c37,",
    "3246:s3341,3247:s4948,3248:v,3250:m70.74.65,3251:m32.31,3252:m32.32,3253:m32.33,3254:m32.34,",
    "3255:m32.35,3256:m32.36,3257:m32.37,3258:m32.38,3259:m32.39,325a:m33.30,325b:m33.31,",
    "325c:m33.32,325d:m33.33,325e:m33.34,325f:m33.35,3260:s-2160,3261:s-215f,3263:s-215e,",
    "3266:s-215d,3267:s-215c,3269:s-215b,326e:s7992,326f:s7e29,3270:s8074,3271:s850b,3272:s8756,",
    "3273:s89a1,3274:s8e38,3275:s92cf,3276:s951a,3277:s99b1,3278:s9bfc,3279:s9e47,327a:sa092,",
    "327b:sa2dd,327c:mcc38.ace0,327d:mc8fc.c758,327e:s9432,327f:v,3280:s1b80,3281:s1c0b,",
    "3282:s1b87,3283:s2458,3284:s1c10,3285:s1ee8,3286:s1b7d,3287:s1ee4,3288:s1bd5,3289:s20b8,",
    "328a:s347e,328b:s3de0,328c:s39a8,328d:s349b,328e:s5f43,328f:s2490,3290:s3355,3291:s3599,",
    "3292:s3477,3293:s46ab,3294:s2179,3295:s3fe4,3296:s5a0b,3297:s46c6,3298:s201c,3299:s473f,",
    "329a:s429d,329b:s26d8,329c:s5dcd,329d:s1e8d,329e:s20d2,329f:s3a49,32a0:s6565,32a1:s1c70,",
    "32a2:s1ef7,32a3:s38c0,32a4:s1b66,32a5:s1b88,32a6:s1b65,32a7:s2b3f,32a8:s214b,32a9:s2092,",
    "32aa:s28ed,32ab:s28bb,32ac:s4437,32ad:s1c54,32ae:s5a19,32af:s20a5,32b0:s266c,32b1:m33.36,",
    "32b2:m33.37,32b3:m33.38,32b4:m33.39,32b5:m34.30,32b6:m34.31,32b7:m34.32,32b8:m34.33,",
    "32b9:m34.34,32ba:m34.35,32bb:m34.36,32bc:m34.37,32bd:m34.38,32be:m34.39,32bf:m35.30,",
    "32c0:m31.6708,32c1:m32.6708,32c2:m33.6708,32c3:m34.6708,32c4:m35.6708,32c5:m36.6708,",
    "32c6:m37.6708,32c7:m38.6708,32c8:m39.6708,32c9:m31.30.6708,32ca:m31.31.6708,",
    "32cb:m31.32.6708,32cc:m68.67,32cd:m65.72.67,32ce:m65.76,32cf:m6c.74.64,32d0:s-22e,",
    "32d1:s-22d,32d2:s-22c,32d3:s-22b,32d4:s-22a,32d6:s-229,32d7:s-228,32d8:s-227,32d9:s-226,",
    "32da:s-225,32db:s-224,32dc:s-223,32dd:s-222,32de:s-221,32df:s-220,32e0:s-21f,32e1:s-21d,",
    "32e2:s-21c,32e3:s-21b,32e4:s-21a,32ea:s-218,32eb:s-216,32ec:s-214,32ed:s-212,32ee:s-210,",
    "32f3:s-20f,32f4:s-20e,32f5:s-20d,32fb:s-20c,32ff:m4ee4.548c,3300:m30a2.30d1.30fc.30c8,",
    "3301:m30a2.30eb.30d5.30a1,3302:m30a2.30f3.30da.30a2,3303:m30a2.30fc.30eb,",
    "3304:m30a4.30cb.30f3.30b0,3305:m30a4.30f3.30c1,3306:m30a6.30a9.30f3,",
    "3307:m30a8.30b9.30af.30fc.30c9,3308:m30a8.30fc.30ab.30fc,3309:m30aa.30f3.30b9,",
    "330a:m30aa.30fc.30e0,330b:m30ab.30a4.30ea,330c:m30ab.30e9.30c3.30c8,",
    "330d:m30ab.30ed.30ea.30fc,330e:m30ac.30ed.30f3,330f:m30ac.30f3.30de,3310:m30ae.30ac,",
    "3311:m30ae.30cb.30fc,3312:m30ad.30e5.30ea.30fc,3313:m30ae.30eb.30c0.30fc,3314:m30ad.30ed,",
    "3315:m30ad.30ed.30b0.30e9.30e0,3316:m30ad.30ed.30e1.30fc.30c8.30eb,",
    "3317:m30ad.30ed.30ef.30c3.30c8,3318:m30b0.30e9.30e0,3319:m30b0.30e9.30e0.30c8.30f3,",
    "331a:m30af.30eb.30bc.30a4.30ed,331b:m30af.30ed.30fc.30cd,331c:m30b1.30fc.30b9,",
    "331d:m30b3.30eb.30ca,331e:m30b3.30fc.30dd,331f:m30b5.30a4.30af.30eb,",
    "3320:m30b5.30f3.30c1.30fc.30e0,3321:m30b7.30ea.30f3.30b0,3322:m30bb.30f3.30c1,",
    "3323:m30bb.30f3.30c8,3324:m30c0.30fc.30b9,3325:m30c7.30b7,3326:m30c9.30eb,3327:m30c8.30f3,",
    "3328:m30ca.30ce,3329:m30ce.30c3.30c8,332a:m30cf.30a4.30c4,332b:m30d1.30fc.30bb.30f3.30c8,",
    "332c:m30d1.30fc.30c4,332d:m30d0.30fc.30ec.30eb,332e:m30d4.30a2.30b9.30c8.30eb,",
    "332f:m30d4.30af.30eb,3330:m30d4.30b3,3331:m30d3.30eb,3332:m30d5.30a1.30e9.30c3.30c9,",
    "3333:m30d5.30a3.30fc.30c8,3334:m30d6.30c3.30b7.30a7.30eb,3335:m30d5.30e9.30f3,",
    "3336:m30d8.30af.30bf.30fc.30eb,3337:m30da.30bd,3338:m30da.30cb.30d2,3339:m30d8.30eb.30c4,",
    "333a:m30da.30f3.30b9,333b:m30da.30fc.30b8,333c:m30d9.30fc.30bf,333d:m30dd.30a4.30f3.30c8,",
    "333e:m30dc.30eb.30c8,333f:m30db.30f3,3340:m30dd.30f3.30c9,3341:m30db.30fc.30eb,",
    "3342:m30db.30fc.30f3,3343:m30de.30a4.30af.30ed,3344:m30de.30a4.30eb,3345:m30de.30c3.30cf,",
    "3346:m30de.30eb.30af,3347:m30de.30f3.30b7.30e7.30f3,3348:m30df.30af.30ed.30f3,",
    "3349:m30df.30ea,334a:m30df.30ea.30d0.30fc.30eb,334b:m30e1.30ac,334c:m30e1.30ac.30c8.30f3,",
    "334d:m30e1.30fc.30c8.30eb,334e:m30e4.30fc.30c9,334f:m30e4.30fc.30eb,3350:m30e6.30a2.30f3,",
    "3351:m30ea.30c3.30c8.30eb,3352:m30ea.30e9,3353:m30eb.30d4.30fc,3354:m30eb.30fc.30d6.30eb,",
    "3355:m30ec.30e0,3356:m30ec.30f3.30c8.30b2.30f3,3357:m30ef.30c3.30c8,3358:m30.70b9,",
    "3359:m31.70b9,335a:m32.70b9,335b:m33.70b9,335c:m34.70b9,335d:m35.70b9,335e:m36.70b9,",
    "335f:m37.70b9,3360:m38.70b9,3361:m39.70b9,3362:m31.30.70b9,3363:m31.31.70b9,",
    "3364:m31.32.70b9,3365:m31.33.70b9,3366:m31.34.70b9,3367:m31.35.70b9,3368:m31.36.70b9,",
    "3369:m31.37.70b9,336a:m31.38.70b9,336b:m31.39.70b9,336c:m32.30.70b9,336d:m32.31.70b9,",
    "336e:m32.32.70b9,336f:m32.33.70b9,3370:m32.34.70b9,3371:m68.70.61,3372:m64.61,3373:m61.75,",
    "3374:m62.61.72,3375:m6f.76,3376:m70.63,3377:m64.6d,3378:m64.6d.32,3379:m64.6d.33,",
    "337a:m69.75,337b:m5e73.6210,337c:m662d.548c,337d:m5927.6b63,337e:m660e.6cbb,",
    "337f:m682a.5f0f.4f1a.793e,3380:m70.61,3381:m6e.61,3382:m3bc.61,3383:m6d.61,3384:m6b.61,",
    "3385:m6b.62,3386:m6d.62,3387:m67.62,3388:m63.61.6c,3389:m6b.63.61.6c,338a:m70.66,",
    "338b:m6e.66,338c:m3bc.66,338d:m3bc.67,338e:m6d.67,338f:m6b.67,3390:m68.7a,3391:m6b.68.7a,",
    "3392:m6d.68.7a,3393:m67.68.7a,3394:m74.68.7a,3395:m3bc.6c,3396:m6d.6c,3397:m64.6c,",
    "3398:m6b.6c,3399:m66.6d,339a:m6e.6d,339b:m3bc.6d,339c:m6d.6d,339d:m63.6d,339e:m6b.6d,",
    "339f:m6d.6d.32,33a0:m63.6d.32,33a1:m6d.32,33a2:m6b.6d.32,33a3:m6d.6d.33,33a4:m63.6d.33,",
    "33a5:m6d.33,33a6:m6b.6d.33,33a7:m6d.2215.73,33a8:m6d.2215.73.32,33a9:m70.61,33aa:m6b.70.61,",
    "33ab:m6d.70.61,33ac:m67.70.61,33ad:m72.61.64,33ae:m72.61.64.2215.73,",
    "33af:m72.61.64.2215.73.32,33b0:m70.73,33b1:m6e.73,33b2:m3bc.73,33b3:m6d.73,33b4:m70.76,",
    "33b5:m6e.76,33b6:m3bc.76,33b7:m6d.76,33b8:m6b.76,33b9:m6d.76,33ba:m70.77,33bb:m6e.77,",
    "33bc:m3bc.77,33bd:m6d.77,33be:m6b.77,33bf:m6d.77,33c0:m6b.3c9,33c1:m6d.3c9,33c2:x,",
    "33c3:m62.71,33c4:m63.63,33c5:m63.64,33c6:m63.2215.6b.67,33c7:x,33c8:m64.62,33c9:m67.79,",
    "33ca:m68.61,33cb:m68.70,33cc:m69.6e,33cd:m6b.6b,33ce:m6b.6d,33cf:m6b.74,33d0:m6c.6d,",
    "33d1:m6c.6e,33d2:m6c.6f.67,33d3:m6c.78,33d4:m6d.62,33d5:m6d.69.6c,33d6:m6d.6f.6c,",
    "33d7:m70.68,33d8:x,33d9:m70.70.6d,33da:m70.72,33db:m73.72,33dc:m73.76,33dd:m77.62,",
    "33de:m76.2215.6d,33df:m61.2215.6d,33e0:m31.65e5,33e1:m32.65e5,33e2:m33.65e5,33e3:m34.65e5,",
    "33e4:m35.65e5,33e5:m36.65e5,33e6:m37.65e5,33e7:m38.65e5,33e8:m39.65e5,33e9:m31.30.65e5,",
    "33ea:m31.31.65e5,33eb:m31.32.65e5,33ec:m31.33.65e5,33ed:m31.34.65e5,33ee:m31.35.65e5,",
    "33ef:m31.36.65e5,33f0:m31.37.65e5,33f1:m31.38.65e5,33f2:m31.39.65e5,33f3:m32.30.65e5,",
    "33f4:m32.31.65e5,33f5:m32.32.65e5,33f6:m32.33.65e5,33f7:m32.34.65e5,33f8:m32.35.65e5,",
    "33f9:m32.36.65e5,33fa:m32.37.65e5,33fb:m32.38.65e5,33fc:m32.39.65e5,33fd:m33.30.65e5,",
    "33fe:m33.31.65e5,33ff:m67.61.6c,3400:v,a48d:x,a490:v,a4c7:x,a4d0:v,a62c:x,a640:s1,a641:v,",
    "a642:s1,a643:v,a644:s1,a645:v,a646:s1,a647:v,a648:s1,a649:v,a64a:s1,a64b:v,a64c:s1,a64d:v,",
    "a64e:s1,a64f:v,a650:s1,a651:v,a652:s1,a653:v,a654:s1,a655:v,a656:s1,a657:v,a658:s1,a659:v,",
    "a65a:s1,a65b:v,a65c:s1,a65d:v,a65e:s1,a65f:v,a660:s1,a661:v,a662:s1,a663:v,a664:s1,a665:v,",
    "a666:s1,a667:v,a668:s1,a669:v,a66a:s1,a66b:v,a66c:s1,a66d:v,a680:s1,a681:v,a682:s1,a683:v,",
    "a684:s1,a685:v,a686:s1,a687:v,a688:s1,a689:v,a68a:s1,a68b:v,a68c:s1,a68d:v,a68e:s1,a68f:v,",
    "a690:s1,a691:v,a692:s1,a693:v,a694:s1,a695:v,a696:s1,a697:v,a698:s1,a699:v,a69a:s1,a69b:v,",
    "a69c:s-a252,a69d:s-a251,a69e:v,a6f8:x,a700:v,a722:s1,a723:v,a724:s1,a725:v,a726:s1,a727:v,",
    "a728:s1,a729:v,a72a:s1,a72b:v,a72c:s1,a72d:v,a72e:s1,a72f:v,a732:s1,a733:v,a734:s1,a735:v,",
    "a736:s1,a737:v,a738:s1,a739:v,a73a:s1,a73b:v,a73c:s1,a73d:v,a73e:s1,a73f:v,a740:s1,a741:v,",
    "a742:s1,a743:v,a744:s1,a745:v,a746:s1,a747:v,a748:s1,a749:v,a74a:s1,a74b:v,a74c:s1,a74d:v,",
    "a74e:s1,a74f:v,a750:s1,a751:v,a752:s1,a753:v,a754:s1,a755:v,a756:s1,a757:v,a758:s1,a759:v,",
    "a75a:s1,a75b:v,a75c:s1,a75d:v,a75e:s1,a75f:v,a760:s1,a761:v,a762:s1,a763:v,a764:s1,a765:v,",
    "a766:s1,a767:v,a768:s1,a769:v,a76a:s1,a76b:v,a76c:s1,a76d:v,a76e:s1,a76f:v,a770:s-1,a771:v,",
    "a779:s1,a77a:v,a77b:s1,a77c:v,a77d:s-8a04,a77e:s1,a77f:v,a780:s1,a781:v,a782:s1,a783:v,",
    "a784:s1,a785:v,a786:s1,a787:v,a78b:s1,a78c:v,a78d:s-a528,a78e:v,a790:s1,a791:v,a792:s1,",
    "a793:v,a796:s1,a797:v,a798:s1,a799:v,a79a:s1,a79b:v,a79c:s1,a79d:v,a79e:s1,a79f:v,a7a0:s1,",
    "a7a1:v,a7a2:s1,a7a3:v,a7a4:s1,a7a5:v,a7a6:s1,a7a7:v,a7a8:s1,a7a9:v,a7aa:s-a544,a7ab:s-a54f,",
    "a7ac:s-a54b,a7ad:s-a541,a7ae:s-a544,a7af:v,a7b0:s-a512,a7b1:s-a52a,a7b2:s-a515,a7b3:s3a0,",
    "a7b4:s1,a7b5:v,a7b6:s1,a7b7:v,a7b8:s1,a7b9:v,a7ba:s1,a7bb:v,a7bc:s1,a7bd:v,a7be:s1,a7bf:v,",
    "a7c0:s1,a7c1:v,a7c2:s1,a7c3:v,a7c4:s-30,a7c5:s-a543,a7c6:s-8a38,a7c7:s1,a7c8:v,a7c9:s1,",
    "a7ca:v,a7cb:s-a567,a7cc:s1,a7cd:v,a7ce:s1,a7cf:v,a7d0:s1,a7d1:v,a7d2:s1,a7d3:v,a7d4:s1,",
    "a7d5:v,a7d6:s1,a7d7:v,a7d8:s1,a7d9:v,a7da:s1,a7db:v,a7dc:s-a641,a7dd:x,a7f1:s-a77e,",
    "a7f2:s-a78f,a7f3:s-a78d,a7f4:s-a783,a7f5:s1,a7f6:v,a7f8:s-a6d1,a7f9:s-a6a6,a7fa:v,a82d:x,",
    "a830:v,a83a:x,a840:v,a878:x,a880:v,a8c6:x,a8ce:v,a8da:x,a8e0:v,a954:x,a95f:v,a97d:x,a980:v,",
    "a9ce:x,a9cf:v,a9da:x,a9de:v,a9ff:x,aa00:v,aa37:x,aa40:v,aa4e:x,aa50:v,aa5a:x,aa5c:v,aac3:x,",
    "aadb:v,aaf7:x,ab01:v,ab07:x,ab09:v,ab0f:x,ab11:v,ab17:x,ab20:v,ab27:x,ab28:v,ab2f:x,ab30:v,",
    "ab5c:s-435,ab5d:s-26,ab5e:s-a8f3,ab5f:s-d,ab60:v,ab69:s-a8dc,ab6a:v,ab6c:x,ab70:s-97d0,",
    "abc0:v,abee:x,abf0:v,abfa:x,ac00:v,d7a4:x,d7b0:v,d7c7:x,d7cb:v,d7fc:x,f900:s-6cb8,",
    "f901:s-920d,f902:s-6a38,f903:s-6c3b,f904:s-8a33,f905:s-aad3,f906:s-a521,f907:m9f9c,",
    "f909:s-9fb8,f90a:s-6739,f90b:s-a384,f90c:s-9fc4,f90d:s-9717,f90e:s-82a5,f90f:s-798a,",
    "f910:s-72d1,f911:s-7157,f912:s-701a,f913:s-6884,f914:s-8f12,f915:s-8bfa,f916:s-883d,",
    "f917:s-8539,f918:s-74db,f919:s-67af,f91a:s-5f29,f91b:s-aa99,f91c:s-a5a7,f91d:s-8e19,",
    "f91e:s-8703,f91f:s-72f2,f920:s-5b02,f921:s-9bd1,f922:s-8937,f923:s-7356,f924:s-6fc0,",
    "f925:s-965c,f926:s-774e,f927:s-7108,f928:s-9a5e,f929:s-9212,f92a:s-8bc0,f92b:s-862f,",
    "f92c:s-685e,f92d:s-a9a7,f92e:s-a777,f92f:s-a651,f930:s-946c,f931:s-8e5e,f932:s-8722,",
    "f933:s-824c,f934:s-7933,f935:s-732f,f936:s-72da,f937:s-6b48,f938:s-6206,f939:s-5dca,",
    "f93a:s-5b40,f93b:s-80af,f93c:s-7fbd,f93d:s-7b9d,f93e:s-7575,f93f:s-663b,f940:s-5ac1,",
    "f941:s-6e6b,f942:s-a063,f943:s-9a3f,f944:s-7ce4,f945:s-78c7,f946:s-86e4,f947:s-807d,",
    "f948:s-6c86,f949:s-6252,f94a:s-a072,f94b:s-9ce9,f94c:s-8f39,f94d:s-8b73,f94e:s-8a3f,",
    "f94f:s-7c20,f950:s-7b19,f951:s-6306,f952:s-a680,f953:s-78c8,f954:s-a778,f955:s-a789,",
    "f956:s-7f3a,f957:s-7b99,f958:s-7567,f959:s-62e4,f95a:s-6dda,f95b:s-968c,f95c:s-8f5a,",
    "f95d:s-6e5f,f95e:s-ab25,f95f:s-9d78,f960:s-994e,f961:s-85da,f962:s-83f2,f963:s-a64c,",
    "f964:s-8069,f965:s-a9a6,f966:s-99bd,f967:s-ab5a,f968:s-8c9c,f969:s-93f1,f96a:s-7c48,",
    "f96b:s-a5a8,f96c:s-a10e,f96d:s-826c,f96e:s-7525,f96f:s-6ec5,f970:s-8db6,f971:s-69c1,",
    "f972:s-8cea,f973:s-9675,f974:s-768f,f975:s-95d5,f976:s-8411,f977:s-aac9,f978:s-a80f,",
    "f979:s-a7b0,f97a:s-90f9,f97b:s-7c94,f97c:s-770d,f97d:s-6eab,f97e:s-67af,f97f:s-a68a,",
    "f980:s-a53e,f981:s-a00e,f982:s-9a96,f983:s-93be,f984:s-8986,f985:s-805b,f986:s-63d9,",
    "f987:s-5f1d,f988:s-5af1,f989:s-5abb,f98a:s-a6ef,f98b:s-92c5,f98c:s-8e15,f98d:s-6a2b,",
    "f98e:s-9b1a,f98f:s-97ff,f990:s-9790,f991:s-94f7,f992:s-8a6f,f993:s-884a,f994:s-850b,",
    "f995:s-7fcb,f996:s-7ba2,f997:s-7928,f998:s-6a72,f999:s-74ab,f99a:s-6977,f99b:s-6651,",
    "f99c:s-a785,f99d:s-a6fa,f99e:s-a4e1,f99f:s-88d7,f9a0:s-70de,f9a1:s-6ef7,f9a2:s-9ad9,",
    "f9a3:s-99ae,f9a4:s-9629,f9a5:s-8df7,f9a6:s-7d68,f9a7:s-8632,f9a8:s-aac4,f9a9:s-a2b0,",
    "f9aa:s-9dc3,f9ab:s-9bf1,f9ac:s-9990,f9ad:s-85fb,f9ae:s-8545,f9af:s-7a15,f9b0:s-796a,",
    "f9b1:s-677d,f9b2:s-62bc,f9b3:s-626b,f9b4:s-619c,f9b5:s-aa2a,f9b6:s-8008,f9b7:s-6803,",
    "f9b8:s-6300,f9b9:s-98d8,f9ba:s-ab34,f9bb:s-a8e1,f9bc:s-9dce,f9bd:s-9d7e,f9be:s-9425,",
    "f9bf:s-8fbd,f9c0:s-87f2,f9c1:s-837f,f9c2:s-74c6,f9c3:s-6947,f9c4:s-5a37,f9c5:s-933d,",
    "f9c6:s-6398,f9c7:s-a73e,f9c8:s-924d,f9c9:s-91d6,f9ca:s-8c89,f9cb:s-8b2f,f9cc:s-85c3,",
    "f9cd:s-8474,f9ce:s-8163,f9cf:s-7cbf,f9d0:s-6172,f9d1:s-a864,f9d2:s-97a4,f9d3:s-635b,",
    "f9d4:s-a9a9,f9d5:s-9cbc,f9d6:s-8bec,f9d7:s-6aad,f9d8:s-9a4d,f9d9:s-9895,f9da:s-91c3,",
    "f9db:s-8654,f9dc:s-6356,f9dd:s-a7b4,f9de:s-a5cf,f9df:s-9d7a,f9e0:s-93cd,f9e1:s-9293,",
    "f9e2:s-913a,f9e3:s-8cfe,f9e4:s-85de,f9e5:s-8403,f9e6:s-7a6d,f9e7:s-7118,f9e8:s-7107,",
    "f9e9:s-681d,f9ea:s-6308,f9eb:s-a6ac,f9ec:s-8b32,f9ed:s-a5d0,f9ee:s-881e,f9ef:s-8557,",
    "f9f0:s-73f6,f9f1:s-634e,f9f2:s-5d9b,f9f3:s-5b54,f9f4:s-925d,f9f5:s-8c2a,f9f6:s-780e,",
    "f9f7:s-7f2c,f9f8:s-7ed8,f9f9:s-7d67,f9fa:s-873a,f9fb:s-8962,f9fc:s-6ea4,f9fd:s-ab3d,",
    "f9fe:s-76c8,f9ff:s-a7c5,fa00:s-a7f9,fa01:s-9b5b,fa02:s-972f,fa03:s-7d2d,fa04:s-9e7f,",
    "fa05:s-8ce7,fa06:s-9352,fa07:s-6acc,fa08:s-71bc,fa09:s-63bc,fa0a:s-707f,fa0b:s-9b38,",
    "fa0c:s-a8cc,fa0d:s-a44d,fa0e:v,fa10:s-a1b6,fa11:v,fa12:s-939e,fa13:v,fa15:s-a837,",
    "fa16:s-86ec,fa17:s-834d,fa18:s-80dc,fa19:s-80bb,fa1a:s-80b5,fa1b:s-808c,fa1c:s-62c6,",
    "fa1d:s-7d5f,fa1e:s-7a61,fa1f:v,fa20:s-740e,fa21:v,fa22:s-6f2a,fa23:v,fa25:s-69ed,",
    "fa26:s-6929,fa27:v,fa2a:s-613b,fa2b:s-612f,fa2c:s-6104,fa2d:s-5c79,fa2e:s-6950,fa2f:s-6378,",
    "fa30:s-aa82,fa31:s-a94a,fa32:s-a8e5,fa33:s-a76a,fa34:s-a750,fa35:s-a6e4,fa36:s-a499,",
    "fa37:s-a431,fa38:s-a3d0,fa39:s-a1f9,fa3a:s-a192,fa3b:s-9dd7,fa3c:s-9dce,fa3d:s-99a9,",
    "fa3e:s-98d6,fa3f:s-98b1,fa40:s-984e,fa41:s-94f2,fa42:s-9460,fa43:s-93b2,fa44:s-91bf,",
    "fa45:s-8cce,fa46:s-8c2c,fa47:s-8b25,fa48:s-88da,fa49:s-881e,fa4a:s-8628,fa4b:s-81ba,",
    "fa4c:s-810e,fa4d:s-8104,fa4e:s-8106,fa4f:s-80ff,fa50:s-80fa,fa51:s-80f4,fa52:s-80c5,",
    "fa54:s-8014,fa55:s-7fd4,fa56:s-7e96,fa57:s-7c63,fa58:s-7c4f,fa59:s-7c18,fa5a:s-7ae8,",
    "fa5b:s-7a56,fa5c:s-786f,fa5d:m8279,fa5f:s-7608,fa60:s-7150,fa61:s-70cb,fa62:s-6f61,",
    "fa63:s-6f2a,fa64:s-6d91,fa65:s-6d5d,fa66:s-6ab0,fa67:s-6a2f,fa68:s-6385,fa69:s-626a,",
    "fa6a:s-622f,fa6b:s-99f6,fa6c:s14882,fa6d:s-7855,fa6e:x,fa70:s-ac4a,fa71:s-a8bc,fa72:s-a90a,",
    "fa73:s-aaf3,fa74:s-a92f,fa75:s-a8f5,fa76:s-a7af,fa77:s-a77d,fa78:s-a4db,fa79:s-a524,",
    "fa7a:s-a4e1,fa7b:s-a499,fa7c:s-a222,fa7d:s-a1ca,fa7e:s-a13a,fa7f:s-a12b,fa80:s-a01e,",
    "fa81:s-9f59,fa82:s-9bb0,fa83:s-9baa,fa84:s-9b1b,fa85:s-9ad8,fa86:s-99ae,fa87:s-9939,",
    "fa88:s-9980,fa89:s-98fb,fa8a:s-992a,fa8b:s-9899,fa8c:s-9858,fa8d:s-96c9,fa8e:s-9672,",
    "fa8f:s-963d,fa90:s-953a,fa91:s-941d,fa92:s-937b,fa93:s-9378,fa94:s-933e,fa95:s-8f1c,",
    "fa96:s-8edc,fa97:s-8d56,fa98:s-8bbd,fa99:s-8bce,fa9a:s-8b78,fa9b:s-8a7d,fa9c:s-892e,",
    "fa9d:s-82f6,fa9e:s-8869,fa9f:s-87f0,faa0:s-8776,faa1:s-8630,faa2:s-859c,faa3:s-8568,",
    "faa4:s-8487,faa5:s-8486,faa6:s-83dc,faa7:s-83cc,faa8:s-83b4,faa9:s-835f,faaa:s-836a,",
    "faab:s-81df,faac:s-7ffb,faad:s-7eed,faae:s-7e33,faaf:s-7d54,fab0:s-7cbc,fab1:s-7b73,",
    "fab2:s-7aad,fab3:s-7761,fab4:s-76c5,fab5:s-733c,fab6:s-7175,fab7:s-7131,fab8:s-7122,",
    "fab9:s-6ffa,faba:s-6fc2,fabb:s-6ff0,fabc:s-6fbb,fabd:s-6fbf,fabe:s-6fd1,fabf:s-6f86,",
    "fac0:s-6f36,fac1:s-6db9,fac2:s-6b8a,fac3:s-6a51,fac4:s-692b,fac5:s-684f,fac6:s-644a,",
    "fac7:s-63e4,fac8:s-6372,fac9:s-62ee,faca:s-62cb,facb:s-62c0,facc:s-6291,facd:s-5fbb,",
    "face:s-5b32,facf:s12d7b,fad0:s12d74,fad1:s13904,fad2:s-bf35,fad3:s-babb,fad4:s-ba9b,",
    "fad5:s15774,fad6:s161fa,fad7:s183fc,fad8:s-5b95,fad9:s-5b4b,fada:x,fb00:m66.66,fb01:m66.69,",
    "fb02:m66.6c,fb03:m66.66.69,fb04:m66.66.6c,fb05:m73.74,fb07:x,fb13:m574.576,fb14:m574.565,",
    "fb15:m574.56b,fb16:m57e.576,fb17:m574.56d,fb18:x,fb1d:m5d9.5b4,fb1e:v,fb1f:m5f2.5b7,",
    "fb20:s-f53e,fb21:s-f551,fb22:s-f54f,fb24:s-f549,fb27:s-f53f,fb28:s-f53e,fb29:s-fafe,",
    "fb2a:m5e9.5c1,fb2b:m5e9.5c2,fb2c:m5e9.5bc.5c1,fb2d:m5e9.5bc.5c2,fb2e:m5d0.5b7,fb2f:m5d0.5b8,",
    "fb30:m5d0.5bc,fb31:m5d1.5bc,fb32:m5d2.5bc,fb33:m5d3.5bc,fb34:m5d4.5bc,fb35:m5d5.5bc,",
    "fb36:m5d6.5bc,fb37:x,fb38:m5d8.5bc,fb39:m5d9.5bc,fb3a:m5da.5bc,fb3b:m5db.5bc,fb3c:m5dc.5bc,",
    "fb3d:x,fb3e:m5de.5bc,fb3f:x,fb40:m5e0.5bc,fb41:m5e1.5bc,fb42:x,fb43:m5e3.5bc,fb44:m5e4.5bc,",
    "fb45:x,fb46:m5e6.5bc,fb47:m5e7.5bc,fb48:m5e8.5bc,fb49:m5e9.5bc,fb4a:m5ea.5bc,fb4b:m5d5.5b9,",
    "fb4c:m5d1.5bf,fb4d:m5db.5bf,fb4e:m5e4.5bf,fb4f:m5d0.5dc,fb50:m671,fb52:m67b,fb56:m67e,",
    "fb5a:m680,fb5e:m67a,fb62:m67f,fb66:m679,fb6a:m6a4,fb6e:m6a6,fb72:m684,fb76:m683,fb7a:m686,",
    "fb7e:m687,fb82:m68d,fb84:m68c,fb86:m68e,fb88:m688,fb8a:m698,fb8c:m691,fb8e:m6a9,fb92:m6af,",
    "fb96:m6b3,fb9a:m6b1,fb9e:m6ba,fba0:m6bb,fba4:m6c0,fba6:m6c1,fbaa:m6be,fbae:m6d2,fbb0:m6d3,",
    "fbb2:v,fbd3:m6ad,fbd7:m6c7,fbd9:m6c6,fbdb:m6c8,fbdd:m6c7.674,fbde:m6cb,fbe0:m6c5,fbe2:m6c9,",
    "fbe4:m6d0,fbe8:m649,fbea:m626.627,fbec:m626.6d5,fbee:m626.648,fbf0:m626.6c7,fbf2:m626.6c6,",
    "fbf4:m626.6c8,fbf6:m626.6d0,fbf9:m626.649,fbfc:m6cc,fc00:m626.62c,fc01:m626.62d,",
    "fc02:m626.645,fc03:m626.649,fc04:m626.64a,fc05:m628.62c,fc06:m628.62d,fc07:m628.62e,",
    "fc08:m628.645,fc09:m628.649,fc0a:m628.64a,fc0b:m62a.62c,fc0c:m62a.62d,fc0d:m62a.62e,",
    "fc0e:m62a.645,fc0f:m62a.649,fc10:m62a.64a,fc11:m62b.62c,fc12:m62b.645,fc13:m62b.649,",
    "fc14:m62b.64a,fc15:m62c.62d,fc16:m62c.645,fc17:m62d.62c,fc18:m62d.645,fc19:m62e.62c,",
    "fc1a:m62e.62d,fc1b:m62e.645,fc1c:m633.62c,fc1d:m633.62d,fc1e:m633.62e,fc1f:m633.645,",
    "fc20:m635.62d,fc21:m635.645,fc22:m636.62c,fc23:m636.62d,fc24:m636.62e,fc25:m636.645,",
    "fc26:m637.62d,fc27:m637.645,fc28:m638.645,fc29:m639.62c,fc2a:m639.645,fc2b:m63a.62c,",
    "fc2c:m63a.645,fc2d:m641.62c,fc2e:m641.62d,fc2f:m641.62e,fc30:m641.645,fc31:m641.649,",
    "fc32:m641.64a,fc33:m642.62d,fc34:m642.645,fc35:m642.649,fc36:m642.64a,fc37:m643.627,",
    "fc38:m643.62c,fc39:m643.62d,fc3a:m643.62e,fc3b:m643.644,fc3c:m643.645,fc3d:m643.649,",
    "fc3e:m643.64a,fc3f:m644.62c,fc40:m644.62d,fc41:m644.62e,fc42:m644.645,fc43:m644.649,",
    "fc44:m644.64a,fc45:m645.62c,fc46:m645.62d,fc47:m645.62e,fc48:m645.645,fc49:m645.649,",
    "fc4a:m645.64a,fc4b:m646.62c,fc4c:m646.62d,fc4d:m646.62e,fc4e:m646.645,fc4f:m646.649,",
    "fc50:m646.64a,fc51:m647.62c,fc52:m647.645,fc53:m647.649,fc54:m647.64a,fc55:m64a.62c,",
    "fc56:m64a.62d,fc57:m64a.62e,fc58:m64a.645,fc59:m64a.649,fc5a:m64a.64a,fc5b:m630.670,",
    "fc5c:m631.670,fc5d:m649.670,fc5e:m20.64c.651,fc5f:m20.64d.651,fc60:m20.64e.651,",
    "fc61:m20.64f.651,fc62:m20.650.651,fc63:m20.651.670,fc64:m626.631,fc65:m626.632,",
    "fc66:m626.645,fc67:m626.646,fc68:m626.649,fc69:m626.64a,fc6a:m628.631,fc6b:m628.632,",
    "fc6c:m628.645,fc6d:m628.646,fc6e:m628.649,fc6f:m628.64a,fc70:m62a.631,fc71:m62a.632,",
    "fc72:m62a.645,fc73:m62a.646,fc74:m62a.649,fc75:m62a.64a,fc76:m62b.631,fc77:m62b.632,",
    "fc78:m62b.645,fc79:m62b.646,fc7a:m62b.649,fc7b:m62b.64a,fc7c:m641.649,fc7d:m641.64a,",
    "fc7e:m642.649,fc7f:m642.64a,fc80:m643.627,fc81:m643.644,fc82:m643.645,fc83:m643.649,",
    "fc84:m643.64a,fc85:m644.645,fc86:m644.649,fc87:m644.64a,fc88:m645.627,fc89:m645.645,",
    "fc8a:m646.631,fc8b:m646.632,fc8c:m646.645,fc8d:m646.646,fc8e:m646.649,fc8f:m646.64a,",
    "fc90:m649.670,fc91:m64a.631,fc92:m64a.632,fc93:m64a.645,fc94:m64a.646,fc95:m64a.649,",
    "fc96:m64a.64a,fc97:m626.62c,fc98:m626.62d,fc99:m626.62e,fc9a:m626.645,fc9b:m626.647,",
    "fc9c:m628.62c,fc9d:m628.62d,fc9e:m628.62e,fc9f:m628.645,fca0:m628.647,fca1:m62a.62c,",
    "fca2:m62a.62d,fca3:m62a.62e,fca4:m62a.645,fca5:m62a.647,fca6:m62b.645,fca7:m62c.62d,",
    "fca8:m62c.645,fca9:m62d.62c,fcaa:m62d.645,fcab:m62e.62c,fcac:m62e.645,fcad:m633.62c,",
    "fcae:m633.62d,fcaf:m633.62e,fcb0:m633.645,fcb1:m635.62d,fcb2:m635.62e,fcb3:m635.645,",
    "fcb4:m636.62c,fcb5:m636.62d,fcb6:m636.62e,fcb7:m636.645,fcb8:m637.62d,fcb9:m638.645,",
    "fcba:m639.62c,fcbb:m639.645,fcbc:m63a.62c,fcbd:m63a.645,fcbe:m641.62c,fcbf:m641.62d,",
    "fcc0:m641.62e,fcc1:m641.645,fcc2:m642.62d,fcc3:m642.645,fcc4:m643.62c,fcc5:m643.62d,",
    "fcc6:m643.62e,fcc7:m643.644,fcc8:m643.645,fcc9:m644.62c,fcca:m644.62d,fccb:m644.62e,",
    "fccc:m644.645,fccd:m644.647,fcce:m645.62c,fccf:m645.62d,fcd0:m645.62e,fcd1:m645.645,",
    "fcd2:m646.62c,fcd3:m646.62d,fcd4:m646.62e,fcd5:m646.645,fcd6:m646.647,fcd7:m647.62c,",
    "fcd8:m647.645,fcd9:m647.670,fcda:m64a.62c,fcdb:m64a.62d,fcdc:m64a.62e,fcdd:m64a.645,",
    "fcde:m64a.647,fcdf:m626.645,fce0:m626.647,fce1:m628.645,fce2:m628.647,fce3:m62a.645,",
    "fce4:m62a.647,fce5:m62b.645,fce6:m62b.647,fce7:m633.645,fce8:m633.647,fce9:m634.645,",
    "fcea:m634.647,fceb:m643.644,fcec:m643.645,fced:m644.645,fcee:m646.645,fcef:m646.647,",
    "fcf0:m64a.645,fcf1:m64a.647,fcf2:m640.64e.651,fcf3:m640.64f.651,fcf4:m640.650.651,",
    "fcf5:m637.649,fcf6:m637.64a,fcf7:m639.649,fcf8:m639.64a,fcf9:m63a.649,fcfa:m63a.64a,",
    "fcfb:m633.649,fcfc:m633.64a,fcfd:m634.649,fcfe:m634.64a,fcff:m62d.649,fd00:m62d.64a,",
    "fd01:m62c.649,fd02:m62c.64a,fd03:m62e.649,fd04:m62e.64a,fd05:m635.649,fd06:m635.64a,",
    "fd07:m636.649,fd08:m636.64a,fd09:m634.62c,fd0a:m634.62d,fd0b:m634.62e,fd0c:m634.645,",
    "fd0d:m634.631,fd0e:m633.631,fd0f:m635.631,fd10:m636.631,fd11:m637.649,fd12:m637.64a,",
    "fd13:m639.649,fd14:m639.64a,fd15:m63a.649,fd16:m63a.64a,fd17:m633.649,fd18:m633.64a,",
    "fd19:m634.649,fd1a:m634.64a,fd1b:m62d.649,fd1c:m62d.64a,fd1d:m62c.649,fd1e:m62c.64a,",
    "fd1f:m62e.649,fd20:m62e.64a,fd21:m635.649,fd22:m635.64a,fd23:m636.649,fd24:m636.64a,",
    "fd25:m634.62c,fd26:m634.62d,fd27:m634.62e,fd28:m634.645,fd29:m634.631,fd2a:m633.631,",
    "fd2b:m635.631,fd2c:m636.631,fd2d:m634.62c,fd2e:m634.62d,fd2f:m634.62e,fd30:m634.645,",
    "fd31:m633.647,fd32:m634.647,fd33:m637.645,fd34:m633.62c,fd35:m633.62d,fd36:m633.62e,",
    "fd37:m634.62c,fd38:m634.62d,fd39:m634.62e,fd3a:m637.645,fd3b:m638.645,fd3c:m627.64b,fd3e:v,",
    "fd50:m62a.62c.645,fd51:m62a.62d.62c,fd53:m62a.62d.645,fd54:m62a.62e.645,fd55:m62a.645.62c,",
    "fd56:m62a.645.62d,fd57:m62a.645.62e,fd58:m62c.645.62d,fd5a:m62d.645.64a,fd5b:m62d.645.649,",
    "fd5c:m633.62d.62c,fd5d:m633.62c.62d,fd5e:m633.62c.649,fd5f:m633.645.62d,fd61:m633.645.62c,",
    "fd62:m633.645.645,fd64:m635.62d.62d,fd66:m635.645.645,fd67:m634.62d.645,fd69:m634.62c.64a,",
    "fd6a:m634.645.62e,fd6c:m634.645.645,fd6e:m636.62d.649,fd6f:m636.62e.645,fd71:m637.645.62d,",
    "fd73:m637.645.645,fd74:m637.645.64a,fd75:m639.62c.645,fd76:m639.645.645,fd78:m639.645.649,",
    "fd79:m63a.645.645,fd7a:m63a.645.64a,fd7b:m63a.645.649,fd7c:m641.62e.645,fd7e:m642.645.62d,",
    "fd7f:m642.645.645,fd80:m644.62d.645,fd81:m644.62d.64a,fd82:m644.62d.649,fd83:m644.62c.62c,",
    "fd85:m644.62e.645,fd87:m644.645.62d,fd89:m645.62d.62c,fd8a:m645.62d.645,fd8b:m645.62d.64a,",
    "fd8c:m645.62c.62d,fd8d:m645.62c.645,fd8e:m645.62e.62c,fd8f:m645.62e.645,fd90:v,",
    "fd92:m645.62c.62e,fd93:m647.645.62c,fd94:m647.645.645,fd95:m646.62d.645,fd96:m646.62d.649,",
    "fd97:m646.62c.645,fd99:m646.62c.649,fd9a:m646.645.64a,fd9b:m646.645.649,fd9c:m64a.645.645,",
    "fd9e:m628.62e.64a,fd9f:m62a.62c.64a,fda0:m62a.62c.649,fda1:m62a.62e.64a,fda2:m62a.62e.649,",
    "fda3:m62a.645.64a,fda4:m62a.645.649,fda5:m62c.645.64a,fda6:m62c.62d.649,fda7:m62c.645.649,",
    "fda8:m633.62e.649,fda9:m635.62d.64a,fdaa:m634.62d.64a,fdab:m636.62d.64a,fdac:m644.62c.64a,",
    "fdad:m644.645.64a,fdae:m64a.62d.64a,fdaf:m64a.62c.64a,fdb0:m64a.645.64a,fdb1:m645.645.64a,",
    "fdb2:m642.645.64a,fdb3:m646.62d.64a,fdb4:m642.645.62d,fdb5:m644.62d.645,fdb6:m639.645.64a,",
    "fdb7:m643.645.64a,fdb8:m646.62c.62d,fdb9:m645.62e.64a,fdba:m644.62c.645,fdbb:m643.645.645,",
    "fdbc:m644.62c.645,fdbd:m646.62c.62d,fdbe:m62c.62d.64a,fdbf:m62d.62c.64a,fdc0:m645.62c.64a,",
    "fdc1:m641.645.64a,fdc2:m628.62d.64a,fdc3:m643.645.645,fdc4:m639.62c.645,fdc5:m635.645.645,",
    "fdc6:m633.62e.64a,fdc7:m646.62c.64a,fdc8:v,fdd0:x,fdf0:m635.644.6d2,fdf1:m642.644.6d2,",
    "fdf2:m627.644.644.647,fdf3:m627.643.628.631,fdf4:m645.62d.645.62f,fdf5:m635.644.639.645,",
    "fdf6:m631.633.648.644,fdf7:m639.644.64a.647,fdf8:m648.633.644.645,fdf9:m635.644.649,",
    "fdfa:m635.644.649.20.627.644.644.647.20.639.644.64a.647.20.648.633.644.645,",
    "fdfb:m62c.644.20.62c.644.627.644.647,fdfc:m631.6cc.627.644,fdfd:v,fe00:i,fe10:s-fde4,",
    "fe11:s-ce10,fe12:x,fe13:s-fdd9,fe15:s-fdf4,fe16:s-fdd7,fe17:s-ce01,fe19:x,fe20:v,fe30:x,",
    "fe31:s-de1d,fe32:s-de1f,fe33:m5f,fe35:s-fe0d,fe37:s-fdbc,fe38:s-fdbb,fe39:s-ce25,",
    "fe3b:s-ce2b,fe3d:s-ce33,fe3f:s-ce37,fe41:s-ce35,fe45:v,fe47:s-fdec,fe48:s-fdeb,fe49:m20.305,",
    "fe4d:m5f,fe50:s-fe24,fe51:s-ce50,fe52:x,fe54:s-fe19,fe55:s-fe1b,fe56:s-fe17,fe57:s-fe36,",
    "fe58:s-de44,fe59:s-fe31,fe5b:s-fde0,fe5c:s-fddf,fe5d:s-ce49,fe5f:s-fe3c,fe60:s-fe3a,",
    "fe61:s-fe37,fe63:s-fe36,fe64:s-fe28,fe65:s-fe27,fe66:s-fe29,fe67:x,fe68:s-fe0c,fe69:s-fe45,",
    "fe6b:s-fe2b,fe6c:x,fe70:m20.64b,fe71:m640.64b,fe72:m20.64c,fe73:v,fe74:m20.64d,fe75:x,",
    "fe76:m20.64e,fe77:m640.64e,fe78:m20.64f,fe79:m640.64f,fe7a:m20.650,fe7b:m640.650,",
    "fe7c:m20.651,fe7d:m640.651,fe7e:m20.652,fe7f:m640.652,fe80:s-f85f,fe81:m622,fe83:m623,",
    "fe85:m624,fe87:m625,fe89:m626,fe8d:m627,fe8f:m628,fe93:m629,fe95:m62a,fe99:m62b,fe9d:m62c,",
    "fea1:m62d,fea5:m62e,fea9:m62f,feab:m630,fead:m631,feaf:m632,feb1:m633,feb5:m634,feb9:m635,",
    "febd:m636,fec1:m637,fec5:m638,fec9:m639,fecd:m63a,fed1:m641,fed5:m642,fed9:m643,fedd:m644,",
    "fee1:m645,fee5:m646,fee9:m647,feed:m648,feef:m649,fef1:m64a,fef5:m644.622,fef7:m644.623,",
    "fef9:m644.625,fefb:m644.627,fefd:x,feff:i,ff00:x,ff01:s-fee0,ff21:s-fec0,ff3b:s-fee0,",
    "ff5f:s-d5da,ff61:s-ff33,ff62:s-cf56,ff64:s-cf63,ff65:s-ce6a,ff66:s-ce74,ff67:s-cec6,",
    "ff68:s-cec5,ff69:s-cec4,ff6a:s-cec3,ff6b:s-cec2,ff6c:s-ce89,ff6d:s-ce88,ff6e:s-ce87,",
    "ff6f:s-ceac,ff70:s-ce74,ff71:s-cecf,ff72:s-cece,ff73:s-cecd,ff74:s-cecc,ff75:s-cecb,",
    "ff77:s-ceca,ff78:s-cec9,ff79:s-cec8,ff7a:s-cec7,ff7b:s-cec6,ff7c:s-cec5,ff7d:s-cec4,",
    "ff7e:s-cec3,ff7f:s-cec2,ff80:s-cec1,ff81:s-cec0,ff82:s-cebe,ff83:s-cebd,ff84:s-cebc,",
    "ff85:s-cebb,ff8b:s-ceb9,ff8c:s-ceb7,ff8d:s-ceb5,ff8e:s-ceb3,ff8f:s-ceb1,ff94:s-ceb0,",
    "ff95:s-ceaf,ff96:s-ceae,ff9c:s-cead,ff9d:s-ceaa,ff9e:s-cf05,ffa0:i,ffa1:s-eea1,ffa3:s-edf9,",
    "ffa4:s-eea2,ffa5:s-edf9,ffa7:s-eea4,ffaa:s-edfa,ffb0:s-ee96,ffb1:s-eeab,ffb4:s-ee93,",
    "ffb5:s-eeac,ffbf:x,ffc2:s-ee61,ffc8:x,ffca:s-ee63,ffd0:x,ffd2:s-ee65,ffd8:x,ffda:s-ee67,",
    "ffdd:x,ffe0:s-ff3e,ffe2:s-ff36,ffe3:m20.304,ffe4:s-ff3e,ffe5:s-ff40,ffe6:s-df3d,ffe7:x,",
    "ffe8:s-dae6,ffe9:s-de59,ffed:s-da4d,ffee:s-da23,ffef:x,10000:v,1000c:x,1000d:v,10027:x,",
    "10028:v,1003b:x,1003c:v,1003e:x,1003f:v,1004e:x,10050:v,1005e:x,10080:v,100fb:x,10100:v,",
    "10103:x,10107:v,10134:x,10137:v,1018f:x,10190:v,1019d:x,101a0:v,101a1:x,101d0:v,101fe:x,",
    "10280:v,1029d:x,102a0:v,102d1:x,102e0:v,102fc:x,10300:v,10324:x,1032d:v,1034b:x,10350:v,",
    "1037b:x,10380:v,1039e:x,1039f:v,103c4:x,103c8:v,103d6:x,10400:s28,10428:v,1049e:x,104a0:v,",
    "104aa:x,104b0:s28,104d4:x,104d8:v,104fc:x,10500:v,10528:x,10530:v,10564:x,1056f:v,10570:s27,",
    "1057b:x,1057c:s27,1058b:x,1058c:s27,10593:x,10594:s27,10596:x,10597:v,105a2:x,105a3:v,",
    "105b2:x,105b3:v,105ba:x,105bb:v,105bd:x,105c0:v,105f4:x,10600:v,10737:x,10740:v,10756:x,",
    "10760:v,10768:x,10780:v,10781:s-104b1,10783:s-1069d,10784:s-104eb,10785:s-10532,10786:x,",
    "10787:s-104e4,10788:s-5c22,10789:s-104e4,1078a:s-104e6,1078b:s-10535,1078d:s-e9fc,",
    "1078e:s-10536,1078f:s-10531,10790:s-104e7,10791:s-1052d,10792:s-10530,10793:s-10533,",
    "10794:s-104f9,10795:s-1066e,10796:s-104fa,10797:s-10530,10798:s-10514,10799:s-104ef,",
    "1079b:s-1052f,1079c:sd768,1079d:s-600f,1079e:s-10530,1079f:sd766,107a0:s-10512,107a1:sd765,",
    "107a2:s-106aa,107a3:s-1052d,107a5:s-10734,107a6:s-1052c,107a7:sd761,107a8:s-1052b,",
    "107aa:s-1052a,107ab:s-10503,107ac:s-10506,107ad:s-5c46,107ae:s-10507,107af:s-10527,",
    "107b0:s-db3f,107b1:x,107b2:s-10523,107b3:s-10512,107b5:s-1051d,107b6:s-105f6,107b9:sd751,",
    "107ba:sd764,107bb:x,10800:v,10806:x,10808:v,10809:x,1080a:v,10836:x,10837:v,10839:x,1083c:v,",
    "1083d:x,1083f:v,10856:x,10857:v,1089f:x,108a7:v,108b0:x,108e0:v,108f3:x,108f4:v,108f6:x,",
    "108fb:v,1091c:x,1091f:v,1093a:x,1093f:v,1095a:x,10980:v,109b8:x,109bc:v,109d0:x,109d2:v,",
    "10a04:x,10a05:v,10a07:x,10a0c:v,10a14:x,10a15:v,10a18:x,10a19:v,10a36:x,10a38:v,10a3b:x,",
    "10a3f:v,10a49:x,10a50:v,10a59:x,10a60:v,10aa0:x,10ac0:v,10ae7:x,10aeb:v,10af7:x,10b00:v,",
    "10b36:x,10b39:v,10b56:x,10b58:v,10b73:x,10b78:v,10b92:x,10b99:v,10b9d:x,10ba9:v,10bb0:x,",
    "10c00:v,10c49:x,10c80:s40,10cb3:x,10cc0:v,10cf3:x,10cfa:v,10d28:x,10d30:v,10d3a:x,10d40:v,",
    "10d50:s20,10d66:x,10d69:v,10d86:x,10d8e:v,10d90:x,10e60:v,10e7f:x,10e80:v,10eaa:x,10eab:v,",
    "10eae:x,10eb0:v,10eb2:x,10ec2:v,10ec8:x,10ed0:v,10ed9:x,10efa:v,10f28:x,10f30:v,10f5a:x,",
    "10f70:v,10f8a:x,10fb0:v,10fcc:x,10fe0:v,10ff7:x,11000:v,1104e:x,11052:v,11076:x,1107f:v,",
    "110bd:x,110be:v,110c3:x,110d0:v,110e9:x,110f0:v,110fa:x,11100:v,11135:x,11136:v,11148:x,",
    "11150:v,11177:x,11180:v,111e0:x,111e1:v,111f5:x,11200:v,11212:x,11213:v,11242:x,11280:v,",
    "11287:x,11288:v,11289:x,1128a:v,1128e:x,1128f:v,1129e:x,1129f:v,112aa:x,112b0:v,112eb:x,",
    "112f0:v,112fa:x,11300:v,11304:x,11305:v,1130d:x,1130f:v,11311:x,11313:v,11329:x,1132a:v,",
    "11331:x,11332:v,11334:x,11335:v,1133a:x,1133b:v,11345:x,11347:v,11349:x,1134b:v,1134e:x,",
    "11350:v,11351:x,11357:v,11358:x,1135d:v,11364:x,11366:v,1136d:x,11370:v,11375:x,11380:v,",
    "1138a:x,1138b:v,1138c:x,1138e:v,1138f:x,11390:v,113b6:x,113b7:v,113c1:x,113c2:v,113c3:x,",
    "113c5:v,113c6:x,113c7:v,113cb:x,113cc:v,113d6:x,113d7:v,113d9:x,113e1:v,113e3:x,11400:v,",
    "1145c:x,1145d:v,11462:x,11480:v,114c8:x,114d0:v,114da:x,11580:v,115b6:x,115b8:v,115de:x,",
    "11600:v,11645:x,11650:v,1165a:x,11660:v,1166d:x,11680:v,116ba:x,116c0:v,116ca:x,116d0:v,",
    "116e4:x,11700:v,1171b:x,1171d:v,1172c:x,11730:v,11747:x,11800:v,1183c:x,118a0:s20,118c0:v,",
    "118f3:x,118ff:v,11907:x,11909:v,1190a:x,1190c:v,11914:x,11915:v,11917:x,11918:v,11936:x,",
    "11937:v,11939:x,1193b:v,11947:x,11950:v,1195a:x,119a0:v,119a8:x,119aa:v,119d8:x,119da:v,",
    "119e5:x,11a00:v,11a48:x,11a50:v,11aa3:x,11ab0:v,11af9:x,11b00:v,11b0a:x,11b60:v,11b68:x,",
    "11bc0:v,11be2:x,11bf0:v,11bfa:x,11c00:v,11c09:x,11c0a:v,11c37:x,11c38:v,11c46:x,11c50:v,",
    "11c6d:x,11c70:v,11c90:x,11c92:v,11ca8:x,11ca9:v,11cb7:x,11d00:v,11d07:x,11d08:v,11d0a:x,",
    "11d0b:v,11d37:x,11d3a:v,11d3b:x,11d3c:v,11d3e:x,11d3f:v,11d48:x,11d50:v,11d5a:x,11d60:v,",
    "11d66:x,11d67:v,11d69:x,11d6a:v,11d8f:x,11d90:v,11d92:x,11d93:v,11d99:x,11da0:v,11daa:x,",
    "11db0:v,11ddc:x,11de0:v,11dea:x,11ee0:v,11ef9:x,11f00:v,11f11:x,11f12:v,11f3b:x,11f3e:v,",
    "11f5b:x,11fb0:v,11fb1:x,11fc0:v,11ff2:x,11fff:v,1239a:x,12400:v,1246f:x,12470:v,12475:x,",
    "12480:v,12544:x,12f90:v,12ff3:x,13000:v,13430:x,13440:v,13456:x,13460:v,143fb:x,14400:v,",
    "14647:x,16100:v,1613a:x,16800:v,16a39:x,16a40:v,16a5f:x,16a60:v,16a6a:x,16a6e:v,16abf:x,",
    "16ac0:v,16aca:x,16ad0:v,16aee:x,16af0:v,16af6:x,16b00:v,16b46:x,16b50:v,16b5a:x,16b5b:v,",
    "16b62:x,16b63:v,16b78:x,16b7d:v,16b90:x,16d40:v,16d7a:x,16e40:s20,16e60:v,16e9b:x,16ea0:s1b,",
    "16eb9:x,16ebb:v,16ed4:x,16f00:v,16f4b:x,16f4f:v,16f88:x,16f8f:v,16fa0:x,16fe0:v,16fe5:x,",
    "16ff0:v,16ff7:x,17000:v,18cd6:x,18cff:v,18d1f:x,18d80:v,18df3:x,1aff0:v,1aff4:x,1aff5:v,",
    "1affc:x,1affd:v,1afff:x,1b000:v,1b123:x,1b132:v,1b133:x,1b150:v,1b153:x,1b155:v,1b156:x,",
    "1b164:v,1b168:x,1b170:v,1b2fc:x,1bc00:v,1bc6b:x,1bc70:v,1bc7d:x,1bc80:v,1bc89:x,1bc90:v,",
    "1bc9a:x,1bc9c:v,1bca0:i,1bca4:x,1cc00:v,1ccd6:s-1cc75,1ccf0:s-1ccc0,1ccfa:v,1ccfd:x,1cd00:v,",
    "1ceb4:x,1ceba:v,1ced1:x,1cee0:v,1cef1:x,1cf00:v,1cf2e:x,1cf30:v,1cf47:x,1cf50:v,1cfc4:x,",
    "1d000:v,1d0f6:x,1d100:v,1d127:x,1d129:v,1d15e:m1d157.1d165,1d15f:m1d158.1d165,",
    "1d160:m1d158.1d165.1d16e,1d161:m1d158.1d165.1d16f,1d162:m1d158.1d165.1d170,",
    "1d163:m1d158.1d165.1d171,1d164:m1d158.1d165.1d172,1d165:v,1d173:i,1d17b:v,",
    "1d1bb:m1d1b9.1d165,1d1bc:m1d1ba.1d165,1d1bd:m1d1b9.1d165.1d16e,1d1be:m1d1ba.1d165.1d16e,",
    "1d1bf:m1d1b9.1d165.1d16f,1d1c0:m1d1ba.1d165.1d16f,1d1c1:v,1d1eb:x,1d200:v,1d246:x,1d2c0:v,",
    "1d2d4:x,1d2e0:v,1d2f4:x,1d300:v,1d357:x,1d360:v,1d379:x,1d400:s-1d39f,1d41a:s-1d3b9,",
    "1d434:s-1d3d3,1d44e:s-1d3ed,1d455:x,1d456:s-1d3ed,1d468:s-1d407,1d482:s-1d421,1d49c:s-1d43b,",
    "1d49d:x,1d49e:s-1d43b,1d4a0:x,1d4a2:s-1d43b,1d4a3:x,1d4a5:s-1d43b,1d4a7:x,1d4a9:s-1d43b,",
    "1d4ad:x,1d4ae:s-1d43b,1d4b6:s-1d455,1d4ba:x,1d4bb:s-1d455,1d4bc:x,1d4bd:s-1d455,1d4c4:x,",
    "1d4c5:s-1d455,1d4d0:s-1d46f,1d4ea:s-1d489,1d504:s-1d4a3,1d506:x,1d507:s-1d4a3,1d50b:x,",
    "1d50d:s-1d4a3,1d515:x,1d516:s-1d4a3,1d51d:x,1d51e:s-1d4bd,1d538:s-1d4d7,1d53a:x,",
    "1d53b:s-1d4d7,1d53f:x,1d540:s-1d4d7,1d545:x,1d546:s-1d4d7,1d547:x,1d54a:s-1d4d7,1d551:x,",
    "1d552:s-1d4f1,1d56c:s-1d50b,1d586:s-1d525,1d5a0:s-1d53f,1d5ba:s-1d559,1d5d4:s-1d573,",
    "1d5ee:s-1d58d,1d608:s-1d5a7,1d622:s-1d5c1,1d63c:s-1d5db,1d656:s-1d5f5,1d670:s-1d60f,",
    "1d68a:s-1d629,1d6a4:s-1d573,1d6a5:s-1d46e,1d6a6:x,1d6a8:s-1d2f7,1d6b9:s-1d301,1d6ba:s-1d2f7,",
    "1d6c1:s-1b4ba,1d6c2:s-1d311,1d6d3:m3c3,1d6d5:s-1d311,1d6db:s-1b4d9,1d6dc:s-1d327,",
    "1d6dd:s-1d325,1d6de:s-1d324,1d6df:s-1d319,1d6e0:s-1d31f,1d6e1:s-1d321,1d6e2:s-1d331,",
    "1d6f3:s-1d33b,1d6f4:s-1d331,1d6fb:s-1b4f4,1d6fc:s-1d34b,1d70d:m3c3,1d70f:s-1d34b,",
    "1d715:s-1b513,1d716:s-1d361,1d717:s-1d35f,1d718:s-1d35e,1d719:s-1d353,1d71a:s-1d359,",
    "1d71b:s-1d35b,1d71c:s-1d36b,1d72d:s-1d375,1d72e:s-1d36b,1d735:s-1b52e,1d736:s-1d385,",
    "1d747:m3c3,1d749:s-1d385,1d74f:s-1b54d,1d750:s-1d39b,1d751:s-1d399,1d752:s-1d398,",
    "1d753:s-1d38d,1d754:s-1d393,1d755:s-1d395,1d756:s-1d3a5,1d767:s-1d3af,1d768:s-1d3a5,",
    "1d76f:s-1b568,1d770:s-1d3bf,1d781:m3c3,1d783:s-1d3bf,1d789:s-1b587,1d78a:s-1d3d5,",
    "1d78b:s-1d3d3,1d78c:s-1d3d2,1d78d:s-1d3c7,1d78e:s-1d3cd,1d78f:s-1d3cf,1d790:s-1d3df,",
    "1d7a1:s-1d3e9,1d7a2:s-1d3df,1d7a9:s-1b5a2,1d7aa:s-1d3f9,1d7bb:m3c3,1d7bd:s-1d3f9,",
    "1d7c3:s-1b5c1,1d7c4:s-1d40f,1d7c5:s-1d40d,1d7c6:s-1d40c,1d7c7:s-1d401,1d7c8:s-1d407,",
    "1d7c9:s-1d409,1d7ca:m3dd,1d7cc:x,1d7ce:s-1d79e,1d7d8:s-1d7a8,1d7e2:s-1d7b2,1d7ec:s-1d7bc,",
    "1d7f6:s-1d7c6,1d800:v,1da8c:x,1da9b:v,1daa0:x,1daa1:v,1dab0:x,1df00:v,1df1f:x,1df25:v,",
    "1df2b:x,1e000:v,1e007:x,1e008:v,1e019:x,1e01b:v,1e022:x,1e023:v,1e025:x,1e026:v,1e02b:x,",
    "1e030:s-1dc00,1e039:s-1dbff,1e03c:s-1dbfe,1e047:s-1dbfc,1e048:s-1dbfb,1e04a:s-139c1,",
    "1e04b:s-1db72,1e04c:s-1dbf6,1e04d:s-1dbf5,1e04e:s-1db65,1e04f:s-1dba0,1e050:s-1db81,",
    "1e051:s-1dc21,1e05a:s-1dc20,1e05c:s-1dc1e,1e05e:s-1dc1d,1e05f:s-1dc1c,1e065:s-1dc1b,",
    "1e067:s-1dbd6,1e068:s-1dc12,1e069:s-1dc14,1e06a:s-1dc0b,1e06b:s-1dbc0,1e06c:s-13a1b,",
    "1e06d:s-1dbbc,1e06e:x,1e08f:v,1e090:x,1e100:v,1e12d:x,1e130:v,1e13e:x,1e140:v,1e14a:x,",
    "1e14e:v,1e150:x,1e290:v,1e2af:x,1e2c0:v,1e2fa:x,1e2ff:v,1e300:x,1e4d0:v,1e4fa:x,1e5d0:v,",
    "1e5fb:x,1e5ff:v,1e600:x,1e6c0:v,1e6df:x,1e6e0:v,1e6f6:x,1e6fe:v,1e700:x,1e7e0:v,1e7e7:x,",
    "1e7e8:v,1e7ec:x,1e7ed:v,1e7ef:x,1e7f0:v,1e7ff:x,1e800:v,1e8c5:x,1e8c7:v,1e8d7:x,1e900:s22,",
    "1e922:v,1e94c:x,1e950:v,1e95a:x,1e95e:v,1e960:x,1ec71:v,1ecb5:x,1ed01:v,1ed3e:x,",
    "1ee00:s-1e7d9,1ee02:s-1e7d6,1ee03:s-1e7d4,1ee04:x,1ee05:s-1e7bd,1ee06:s-1e7d4,1ee07:s-1e7da,",
    "1ee08:s-1e7d1,1ee09:s-1e7bf,1ee0a:s-1e7c7,1ee0e:s-1e7db,1ee0f:s-1e7d6,1ee10:s-1e7cf,",
    "1ee11:s-1e7dc,1ee12:s-1e7d0,1ee13:s-1e7e2,1ee14:s-1e7e0,1ee15:s-1e7eb,1ee17:s-1e7e9,",
    "1ee18:s-1e7e8,1ee19:s-1e7e3,1ee1a:s-1e7e2,1ee1b:s-1e7e1,1ee1c:s-1e7ae,1ee1d:s-1e763,",
    "1ee1e:s-1e77d,1ee1f:s-1e7b0,1ee20:x,1ee21:s-1e7f9,1ee22:s-1e7f6,1ee23:x,1ee24:s-1e7dd,",
    "1ee25:x,1ee27:s-1e7fa,1ee28:x,1ee29:s-1e7df,1ee2a:s-1e7e7,1ee2e:s-1e7fb,1ee2f:s-1e7f6,",
    "1ee30:s-1e7ef,1ee31:s-1e7fc,1ee32:s-1e7f0,1ee33:x,1ee34:s-1e800,1ee35:s-1e80b,1ee37:s-1e809,",
    "1ee38:x,1ee39:s-1e803,1ee3a:x,1ee3b:s-1e801,1ee3c:x,1ee42:s-1e816,1ee43:x,1ee47:s-1e81a,",
    "1ee48:x,1ee49:s-1e7ff,1ee4a:x,1ee4b:s-1e807,1ee4c:x,1ee4d:s-1e807,1ee4e:s-1e81b,",
    "1ee4f:s-1e816,1ee50:x,1ee51:s-1e81c,1ee52:s-1e810,1ee53:x,1ee54:s-1e820,1ee55:x,",
    "1ee57:s-1e829,1ee58:x,1ee59:s-1e823,1ee5a:x,1ee5b:s-1e821,1ee5c:x,1ee5d:s-1e7a3,1ee5e:x,",
    "1ee5f:s-1e7f0,1ee60:x,1ee61:s-1e839,1ee62:s-1e836,1ee63:x,1ee64:s-1e81d,1ee65:x,",
    "1ee67:s-1e83a,1ee68:s-1e831,1ee69:s-1e81f,1ee6a:s-1e827,1ee6b:x,1ee6c:s-1e827,1ee6e:s-1e83b,",
    "1ee6f:s-1e836,1ee70:s-1e82f,1ee71:s-1e83c,1ee72:s-1e830,1ee73:x,1ee74:s-1e840,1ee75:s-1e84b,",
    "1ee77:s-1e849,1ee78:x,1ee79:s-1e843,1ee7a:s-1e842,1ee7b:s-1e841,1ee7c:s-1e80e,1ee7d:x,",
    "1ee7e:s-1e7dd,1ee7f:x,1ee80:s-1e859,1ee82:s-1e856,1ee83:s-1e854,1ee84:s-1e83d,1ee86:s-1e854,",
    "1ee87:s-1e85a,1ee88:s-1e851,1ee89:s-1e83f,1ee8a:x,1ee8b:s-1e847,1ee8e:s-1e85b,1ee8f:s-1e856,",
    "1ee90:s-1e84f,1ee91:s-1e85c,1ee92:s-1e850,1ee93:s-1e862,1ee94:s-1e860,1ee95:s-1e86b,",
    "1ee97:s-1e869,1ee98:s-1e868,1ee99:s-1e863,1ee9a:s-1e862,1ee9b:s-1e861,1ee9c:x,1eea1:s-1e879,",
    "1eea2:s-1e876,1eea3:s-1e874,1eea4:x,1eea5:s-1e85d,1eea6:s-1e874,1eea7:s-1e87a,1eea8:s-1e871,",
    "1eea9:s-1e85f,1eeaa:x,1eeab:s-1e867,1eeae:s-1e87b,1eeaf:s-1e876,1eeb0:s-1e86f,1eeb1:s-1e87c,",
    "1eeb2:s-1e870,1eeb3:s-1e882,1eeb4:s-1e880,1eeb5:s-1e88b,1eeb7:s-1e889,1eeb8:s-1e888,",
    "1eeb9:s-1e883,1eeba:s-1e882,1eebb:s-1e881,1eebc:x,1eef0:v,1eef2:x,1f000:v,1f02c:x,1f030:v,",
    "1f094:x,1f0a0:v,1f0af:x,1f0b1:v,1f0c0:x,1f0c1:v,1f0d0:x,1f0d1:v,1f0f6:x,1f101:m30.2c,",
    "1f102:m31.2c,1f103:m32.2c,1f104:m33.2c,1f105:m34.2c,1f106:m35.2c,1f107:m36.2c,1f108:m37.2c,",
    "1f109:m38.2c,1f10a:m39.2c,1f10b:v,1f110:m28.61.29,1f111:m28.62.29,1f112:m28.63.29,",
    "1f113:m28.64.29,1f114:m28.65.29,1f115:m28.66.29,1f116:m28.67.29,1f117:m28.68.29,",
    "1f118:m28.69.29,1f119:m28.6a.29,1f11a:m28.6b.29,1f11b:m28.6c.29,1f11c:m28.6d.29,",
    "1f11d:m28.6e.29,1f11e:m28.6f.29,1f11f:m28.70.29,1f120:m28.71.29,1f121:m28.72.29,",
    "1f122:m28.73.29,1f123:m28.74.29,1f124:m28.75.29,1f125:m28.76.29,1f126:m28.77.29,",
    "1f127:m28.78.29,1f128:m28.79.29,1f129:m28.7a.29,1f12a:m3014.73.3015,1f12b:s-1f0c8,",
    "1f12c:s-1f0ba,1f12d:m63.64,1f12e:m77.7a,1f12f:v,1f130:s-1f0cf,1f14a:m68.76,1f14b:m6d.76,",
    "1f14c:m73.64,1f14d:m73.73,1f14e:m70.70.76,1f14f:m77.63,1f150:v,1f16a:m6d.63,1f16b:m6d.64,",
    "1f16c:m6d.72,1f16d:v,1f190:m64.6a,1f191:v,1f1ae:x,1f1e6:v,1f200:m307b.304b,1f201:m30b3.30b3,",
    "1f202:s-1c14d,1f203:x,1f210:s-18fc5,1f211:s-196ba,1f212:s-19e46,1f213:s-1c14c,1f214:s-1a388,",
    "1f215:s-198fb,1f216:s-16833,1f217:s-198ee,1f218:s-1a374,1f219:s-18bf9,1f21a:s-180f9,",
    "1f21b:s-18c82,1f21c:s-19fcf,1f21d:s-19291,1f21e:s-1a091,1f21f:s-18c6f,1f220:s-1a003,",
    "1f221:s-174df,1f222:s-17d03,1f223:s-1657a,1f224:s-19934,1f225:s-19dec,1f226:s-18312,",
    "1f227:s-18f92,1f228:s-18ed3,1f229:s-1a429,1f22a:s-1a421,1f22b:s-161e1,1f22c:s-19446,",
    "1f22d:s-1a400,1f22e:s-19e3b,1f22f:s-18f28,1f230:s-164c0,1f231:s-18fde,1f232:s-178b1,",
    "1f233:s-177b9,1f234:s-19e2c,1f235:s-183b5,1f236:s-18b2d,1f237:s-18b2f,1f238:s-17d05,",
    "1f239:s-19fc7,1f23a:s-19c84,1f23b:s-160ee,1f23c:x,1f240:m3014.672c.3015,",
    "1f241:m3014.4e09.3015,1f242:m3014.4e8c.3015,1f243:m3014.5b89.3015,1f244:m3014.70b9.3015,",
    "1f245:m3014.6253.3015,1f246:m3014.76d7.3015,1f247:m3014.52dd.3015,1f248:m3014.6557.3015,",
    "1f249:x,1f250:s-192b9,1f251:s-19e62,1f252:x,1f260:v,1f266:x,1f300:v,1f6d9:x,1f6dc:v,1f6ed:x,",
    "1f6f0:v,1f6fd:x,1f700:v,1f7da:x,1f7e0:v,1f7ec:x,1f7f0:v,1f7f1:x,1f800:v,1f80c:x,1f810:v,",
    "1f848:x,1f850:v,1f85a:x,1f860:v,1f888:x,1f890:v,1f8ae:x,1f8b0:v,1f8bc:x,1f8c0:v,1f8c2:x,",
    "1f8d0:v,1f8d9:x,1f900:v,1fa58:x,1fa60:v,1fa6e:x,1fa70:v,1fa7d:x,1fa80:v,1fa8b:x,1fa8e:v,",
    "1fac7:x,1fac8:v,1fac9:x,1facd:v,1fadd:x,1fadf:v,1faeb:x,1faef:v,1faf9:x,1fb00:v,1fb93:x,",
    "1fb94:v,1fbf0:s-1fbc0,1fbfa:v,1fbfb:x,20000:v,2a6e0:x,2a700:v,2b81e:x,2b820:v,2ceae:x,",
    "2ceb0:v,2ebe1:x,2ebf0:v,2ee5e:x,2f800:s-2a9c3,2f801:s-2a9c9,2f802:s-2a9c1,2f803:s-f6e1,",
    "2f804:s-2a8a4,2f805:s-2a857,2f806:s-2a84b,2f807:s-2a805,2f808:s-2a78e,2f809:s-2a770,",
    "2f80a:s-2a723,2f80b:s-2a73c,2f80c:s-2c36e,2f80d:s-f1d3,2f80e:s-2a6c1,2f80f:s-2a6bb,",
    "2f810:s-2a6ac,2f811:s-2a69a,2f812:s-f2f6,2f813:s-2c35a,2f814:s-2a6ad,2f815:s-2a688,",
    "2f816:s-f2cb,2f817:s-2a680,2f818:s-2a674,2f819:s-2a94d,2f81a:s-2a66e,2f81b:s-2a666,",
    "2f81c:s-663d,2f81d:s-2a628,2f81e:s-2a61b,2f81f:s-2c340,2f820:s-2a5e5,2f821:s-2a5db,",
    "2f822:s-2a5b0,2f823:s-2a5ac,2f824:s-2c30f,2f825:s-2a55e,2f826:s-2a55d,2f827:s-2a543,",
    "2f828:s-2a52e,2f829:s-2a524,2f82b:s-2a514,2f82c:s-2a4e3,2f82d:s-2a4dc,2f82e:s-2a4d4,",
    "2f82f:s-2a4bc,2f830:s-2a4b3,2f831:m537f,2f834:s-ee08,2f835:s-287c5,2f836:s-2a46c,",
    "2f837:s-2a458,2f838:s-ecd5,2f839:s-2a44e,2f83a:s-2a449,2f83b:s-2a435,2f83c:s-2a39e,",
    "2f83d:s-2a405,2f83e:s-2a3f6,2f83f:s-2a3d7,2f840:s-2a39e,2f841:s-2a34b,2f842:s-2a332,",
    "2f843:s-2a2f0,2f844:s-2a2e1,2f845:m5584,2f847:s-2a2ae,2f848:s-2a29d,2f849:s-2a296,",
    "2f84a:s-2a288,2f84b:s-2a135,2f84c:s-2a246,2f84d:s-2a136,2f84e:s-2a1fd,2f84f:s-2a1db,",
    "2f850:s-2a649,2f851:s-29f63,2f852:s-2a084,2f853:s-2a05f,2f854:s-2a047,2f855:s-2a0ca,",
    "2f856:s-2a024,2f857:s-2a026,2f858:s-29fac,2f859:s-e375,2f85a:s-29f68,2f85b:s-29f64,",
    "2f85c:s-29f56,2f85d:s-29f43,2f85e:s-29f3c,2f85f:s-29efd,2f860:s-e1b8,2f861:s-e177,",
    "2f862:s-29e76,2f863:s-29e48,2f864:s-29e3d,2f865:s-29e8d,2f866:s-29e00,2f867:s-2c179,",
    "2f868:s-2c16c,2f869:s-29d61,2f86a:m5b3e,2f86c:s-dea4,2f86d:s-29caa,2f86e:s-29c96,",
    "2f86f:s-29c88,2f870:s-29c7d,2f871:s-dd59,2f872:s-29c73,2f873:s-29c6d,2f874:s-29921,",
    "2f875:s-29c53,2f876:s-2c0f5,2f877:s-29c17,2f878:s-29c0a,2f879:s-29bb9,2f87a:s-29bed,",
    "2f87b:s-da97,2f87c:s-29b39,2f87d:s-da97,2f87e:s-29b10,2f87f:s-29b14,2f880:s-29b04,",
    "2f881:s-29aa0,2f883:s-2c054,2f884:s-29a87,2f885:s-29a5d,2f886:s-29a49,2f887:s-29a1e,",
    "2f888:s-2c026,2f889:s-d706,2f88a:s-2c00e,2f88b:s-299db,2f88c:s-299d9,2f88d:s-299d7,",
    "2f88e:s-299c4,2f88f:s-54fd,2f890:s-29992,2f891:m22331,2f893:s-27692,2f894:m5f22,",
    "2f896:s-2bfcf,2f897:s-c5df,2f898:s-96be,2f899:s-29937,2f89a:s-2992f,2f89b:s-2bfb8,",
    "2f89c:s-29902,2f89d:s-298d0,2f89e:s-298c7,2f89f:s-298a6,2f8a0:s-2981f,2f8a1:s-2bf67,",
    "2f8a2:s-2bf86,2f8a3:s-2980f,2f8a4:s-d1d0,2f8a5:s-297de,2f8a6:s-2975e,2f8a7:s-2975b,",
    "2f8a8:s-2975a,2f8a9:s-2975d,2f8aa:s-29730,2f8ab:s-2971d,2f8ac:s-296fa,2f8ad:s-29709,",
    "2f8ae:s-296ff,2f8af:s-296d1,2f8b0:s-296be,2f8b1:s-296bb,2f8b2:s-296a2,2f8b3:s-29698,",
    "2f8b4:s-29657,2f8b5:s-29604,2f8b6:s-295e2,2f8b7:s-29567,2f8b8:s-cdac,2f8b9:s-2957c,",
    "2f8ba:s-295be,2f8bb:s-29553,2f8bc:s-29539,2f8bd:s-294d9,2f8be:s-cccd,2f8bf:s-2949d,",
    "2f8c0:s-294fb,2f8c1:s-29518,2f8c2:s-2be94,2f8c3:s-2945a,2f8c4:s-29446,2f8c5:s-29428,",
    "2f8c6:s-2944f,2f8c7:s-2be5b,2f8c8:s-29379,2f8c9:s-2935d,2f8ca:s-c8c0,2f8cb:s-292e8,",
    "2f8cc:s-291d4,2f8cd:s-29284,2f8ce:s-2bdb5,2f8cf:s-2923e,2f8d0:s-2bdc8,2f8d1:s-2bded,",
    "2f8d2:s-2a740,2f8d3:s-2a73e,2f8d4:s-291d4,2f8d5:s-29239,2f8d6:s-27829,2f8d7:s-2b4fe,",
    "2f8d8:s-291c1,2f8d9:s-291be,2f8da:s-291b9,2f8db:s-2917d,2f8dc:s-29189,2f8dd:s-c51a,",
    "2f8de:s-2bd95,2f8df:s-290e5,2f8e0:s-2915b,2f8e1:s-2908f,2f8e2:s-2905d,2f8e3:s-c476,",
    "2f8e4:s-29056,2f8e5:s-290c6,2f8e6:s-28fd2,2f8e7:s-2bd4a,2f8e8:s-28fa6,2f8e9:s-28f46,",
    "2f8ea:s-28f00,2f8eb:s-28e43,2f8ec:s-c249,2f8ed:s-28e12,2f8ee:s-2bcd6,2f8ef:s-28dce,",
    "2f8f0:s-c049,2f8f1:s-28d9d,2f8f2:s-2bca4,2f8f3:s-28d81,2f8f4:s-28d55,2f8f5:s-28d3b,",
    "2f8f7:s-be6a,2f8f8:s-dbed,2f8f9:s-bdff,2f8fa:s-28cac,2f8fb:s-bc3f,2f8fc:s-28c3d,",
    "2f8fd:s-28c30,2f8fe:s-28c97,2f8ff:s-28be9,2f900:s-28bc2,2f901:s-28b8a,2f902:s-28bc1,",
    "2f903:s-28b9a,2f904:s-28b8c,2f905:s-28b80,2f906:s-bbe8,2f907:s-28bd3,2f908:s-28ad9,",
    "2f909:s-28a9b,2f90a:s-2bbd7,2f90b:s-28a40,2f90c:s-28a45,2f90d:s-ba3c,2f90e:s-28b15,",
    "2f90f:s-289a1,2f910:s-b9b2,2f911:s-b983,2f912:s-2894c,2f913:s-288da,2f914:s-288f6,",
    "2f915:s-288fa,2f916:s-2bb80,2f917:s-288cd,2f918:s-2889b,2f919:s-288a2,2f91a:s-2886d,",
    "2f91b:s-f3f6,2f91c:s-287d7,2f91d:s-b6ba,2f91e:s-28782,2f91f:s-b574,2f920:s-286f8,",
    "2f921:s-286ec,2f922:s-286d2,2f923:s-b31b,2f924:s-286a4,2f925:s-28690,2f926:s-b1f1,",
    "2f927:s-b113,2f928:s-285ae,2f929:s-2859e,2f92a:s-2ba7e,2f92b:s-28586,2f92c:m3eb8,",
    "2f92e:s-284e7,2f92f:s-284d3,2f930:s-284bf,2f931:s-284ac,2f932:s-28468,2f933:s-2ba18,",
    "2f934:s-28410,2f935:s-acff,2f936:s-283f8,2f937:s-aca5,2f938:s-283c8,2f939:s-d79a,",
    "2f93a:s-2832a,2f93b:s-a99a,2f93c:s-a984,2f93d:s-a8f9,2f93e:s-2b942,2f93f:s-2b937,",
    "2f940:s-2824c,2f941:s-a84e,2f942:s-a850,2f943:s-a82a,2f944:s-a811,2f945:s-28227,2f946:m771f,",
    "2f948:s-281fe,2f949:s-2b910,2f94a:s-281bf,2f94b:s-2b905,2f94c:s-2b8b6,2f94d:s-a530,",
    "2f94e:s-28100,2f94f:s-280c3,2f950:s-28084,2f951:s-2b86e,2f952:s-a32c,2f953:s-27ffd,",
    "2f954:s-a2ba,2f955:s-a290,2f956:s-27fc7,2f957:s-27f6c,2f958:s-2b829,2f959:s-27f19,",
    "2f95a:s-27f10,2f95b:s-27f0c,2f95c:s-9fe0,2f95d:m25aa7,2f95f:s-27e71,2f960:s-2b75e,",
    "2f961:s-9db6,2f962:s-27d9c,2f963:s-27d9a,2f964:s-2b73d,2f965:s-9ce5,2f966:s-27c94,",
    "2f967:s-2b6c7,2f968:s-27c80,2f969:s-27c86,2f96a:s-27c6a,2f96b:s-99e5,2f96c:s-27c09,",
    "2f96d:s-2b66c,2f96e:s-27ba7,2f96f:s-27b6d,2f970:s-27b2b,2f971:s-2b63d,2f972:s-974a,",
    "2f973:s-972c,2f974:s-2b61b,2f975:s-969c,2f976:s-279fc,2f977:s-9639,2f978:s-279e3,",
    "2f979:s-2797f,2f97a:s-27975,2f97b:s-94a1,2f97c:s-9459,2f97d:s-2791d,2f97e:s-93d6,",
    "2f97f:s-2790f,2f980:s-c621,2f981:s-2b5ac,2f982:s-278d0,2f983:s-27880,2f984:s-2b579,",
    "2f985:s-27847,2f986:s-29ed1,2f987:s-91e0,2f988:s-91d3,2f989:s-c5f6,2f98a:s-c5ee,",
    "2f98b:s-2778a,2f98c:s-27788,2f98d:s-269ef,2f98e:s-2b523,2f98f:s-276fe,2f990:s-27705,",
    "2f991:s-276f4,2f992:s-2a6df,2f993:s-276e2,2f994:s-276e1,2f995:s-276d8,2f996:s-276b0,",
    "2f997:s-8e5b,2f998:s-276b3,2f999:s-2767c,2f99a:s-27637,2f99b:s-275ee,2f99c:s-27679,",
    "2f99d:s-275e0,2f99e:s-275b7,2f99f:s-27548,2f9a0:s-2764d,2f9a1:s-275d7,2f9a2:s-275d6,",
    "2f9a3:s-275c7,2f9a4:s-8d6e,2f9a5:s-8c3a,2f9a6:s-8cd1,2f9a7:s-2b47c,2f9a8:s-274b7,",
    "2f9a9:s-274b6,2f9aa:s-27494,2f9ab:s-85e1,2f9ac:s-27448,2f9ad:s-8a81,2f9ae:s-2b451,",
    "2f9af:s-2b44e,2f9b0:s-89ff,2f9b1:s-88df,2f9b2:s-2b447,2f9b3:s-27363,2f9b4:s-27358,",
    "2f9b5:s-2734e,2f9b6:s-2734d,2f9b7:s-2730e,2f9b8:s-27330,2f9b9:s-272ab,2f9ba:s-272d8,",
    "2f9bb:s-27242,2f9bc:s-27294,2f9bd:s-27252,2f9be:s-27238,2f9bf:s-2b3e8,2f9c0:s-271df,",
    "2f9c1:s-271c0,2f9c2:s-2b3c9,2f9c3:s-27163,2f9c4:s-27161,2f9c5:s-835e,2f9c6:s-270ef,",
    "2f9c7:s-270e9,2f9c8:s-2b393,2f9c9:s-270cf,2f9ca:s-2c50f,2f9cb:s-811d,2f9cc:s-8066,",
    "2f9cd:s-2b30f,2f9ce:s-2b307,2f9cf:s-26f2f,2f9d0:s-26ee3,2f9d1:s-26e47,2f9d2:s-26d7d,",
    "2f9d3:s-7d2b,2f9d4:s-26d29,2f9d5:s-26d14,2f9d6:s-26cbb,2f9d7:s-26c60,2f9d8:s-7aa9,",
    "2f9d9:s-f1d5,2f9da:s-26c0f,2f9db:s-26c1f,2f9dc:s-26bec,2f9dd:s-f0ff,2f9de:s-26b0a,",
    "2f9df:s-26aa7,2f9e0:s-740e,2f9e1:s-73f4,2f9e2:s-2694e,2f9e3:s-268f2,2f9e4:s-268d3,",
    "2f9e5:s-72b7,2f9e6:s-268cb,2f9e7:s-267af,2f9e8:s-26711,2f9ea:s-2676e,2f9eb:s-265f2,",
    "2f9ec:s-265d7,2f9ed:s-6df3,2f9ee:s-26463,2f9ef:s-2b05a,2f9f0:s-26439,2f9f1:s-6c7a,",
    "2f9f2:s-2b00c,2f9f3:s-26330,2f9f4:s-29c42,2f9f5:s-262d2,2f9f6:s-68b1,2f9f7:s-67dd,",
    "2f9f8:s-2af8a,2f9f9:s-2af83,2f9fa:s-2621a,2f9fb:s-65f1,2f9fc:s-2af4a,2f9fd:s-6567,",
    "2f9fe:m980b,2fa00:s-261d7,2fa01:s-644b,2fa02:s-26120,2fa03:s-2aed0,2fa04:s-260db,",
    "2fa05:s-2605e,2fa06:s-26044,2fa07:s-26009,2fa08:s-2ae3a,2fa09:s-5ed9,2fa0a:s-25ef8,",
    "2fa0b:s-25dcb,2fa0c:s-25d0f,2fa0d:s-2ad3f,2fa0e:s-2ad21,2fa0f:s-25ca8,2fa10:s-5942,",
    "2fa11:s-2ad19,2fa12:s-590d,2fa13:s-5805,2fa14:s-5783,2fa15:s-25b5a,2fa16:s-2acc0,",
    "2fa17:s-25b1e,2fa18:s-25b1a,2fa19:s-25b14,2fa1a:s-25b0b,2fa1b:s-25b05,2fa1c:s-25ae1,",
    "2fa1d:s-541d,2fa1e:x,30000:v,3134b:x,31350:v,3347a:x,e0100:i,e01f0:x,"])

end Idna

end Backoffice
