import Backoffice.Text.CaseRule
import Backoffice.Text.RangeTable

/-! # Casing tables

Character data for lowercasing (Unicode 17.0.0): the full lowercase mapping of every code point as
runs, the case-ignorable code points, and the cased code points that are not case-ignorable. -/

namespace Backoffice

namespace Text

/-- **The full lowercase mapping** of each code point. -/
def lowercaseTable : RangeMap CaseRule := RangeMap.ofText CaseRule.ofToken
  (String.join [
    "0:k,41:s20,5b:k,c0:s20,d7:k,d8:s20,df:k,100:s1,101:k,102:s1,103:k,104:s1,105:k,106:s1,107:k,",
    "108:s1,109:k,10a:s1,10b:k,10c:s1,10d:k,10e:s1,10f:k,110:s1,111:k,112:s1,113:k,114:s1,115:k,",
    "116:s1,117:k,118:s1,119:k,11a:s1,11b:k,11c:s1,11d:k,11e:s1,11f:k,120:s1,121:k,122:s1,123:k,",
    "124:s1,125:k,126:s1,127:k,128:s1,129:k,12a:s1,12b:k,12c:s1,12d:k,12e:s1,12f:k,130:m69.307,",
    "131:k,132:s1,133:k,134:s1,135:k,136:s1,137:k,139:s1,13a:k,13b:s1,13c:k,13d:s1,13e:k,13f:s1,",
    "140:k,141:s1,142:k,143:s1,144:k,145:s1,146:k,147:s1,148:k,14a:s1,14b:k,14c:s1,14d:k,14e:s1,",
    "14f:k,150:s1,151:k,152:s1,153:k,154:s1,155:k,156:s1,157:k,158:s1,159:k,15a:s1,15b:k,15c:s1,",
    "15d:k,15e:s1,15f:k,160:s1,161:k,162:s1,163:k,164:s1,165:k,166:s1,167:k,168:s1,169:k,16a:s1,",
    "16b:k,16c:s1,16d:k,16e:s1,16f:k,170:s1,171:k,172:s1,173:k,174:s1,175:k,176:s1,177:k,",
    "178:s-79,179:s1,17a:k,17b:s1,17c:k,17d:s1,17e:k,181:sd2,182:s1,183:k,184:s1,185:k,186:sce,",
    "187:s1,188:k,189:scd,18b:s1,18c:k,18e:s4f,18f:sca,190:scb,191:s1,192:k,193:scd,194:scf,",
    "195:k,196:sd3,197:sd1,198:s1,199:k,19c:sd3,19d:sd5,19e:k,19f:sd6,1a0:s1,1a1:k,1a2:s1,1a3:k,",
    "1a4:s1,1a5:k,1a6:sda,1a7:s1,1a8:k,1a9:sda,1aa:k,1ac:s1,1ad:k,1ae:sda,1af:s1,1b0:k,1b1:sd9,",
    "1b3:s1,1b4:k,1b5:s1,1b6:k,1b7:sdb,1b8:s1,1b9:k,1bc:s1,1bd:k,1c4:s2,1c5:s1,1c6:k,1c7:s2,",
    "1c8:s1,1c9:k,1ca:s2,1cb:s1,1cc:k,1cd:s1,1ce:k,1cf:s1,1d0:k,1d1:s1,1d2:k,1d3:s1,1d4:k,1d5:s1,",
    "1d6:k,1d7:s1,1d8:k,1d9:s1,1da:k,1db:s1,1dc:k,1de:s1,1df:k,1e0:s1,1e1:k,1e2:s1,1e3:k,1e4:s1,",
    "1e5:k,1e6:s1,1e7:k,1e8:s1,1e9:k,1ea:s1,1eb:k,1ec:s1,1ed:k,1ee:s1,1ef:k,1f1:s2,1f2:s1,1f3:k,",
    "1f4:s1,1f5:k,1f6:s-61,1f7:s-38,1f8:s1,1f9:k,1fa:s1,1fb:k,1fc:s1,1fd:k,1fe:s1,1ff:k,200:s1,",
    "201:k,202:s1,203:k,204:s1,205:k,206:s1,207:k,208:s1,209:k,20a:s1,20b:k,20c:s1,20d:k,20e:s1,",
    "20f:k,210:s1,211:k,212:s1,213:k,214:s1,215:k,216:s1,217:k,218:s1,219:k,21a:s1,21b:k,21c:s1,",
    "21d:k,21e:s1,21f:k,220:s-82,221:k,222:s1,223:k,224:s1,225:k,226:s1,227:k,228:s1,229:k,",
    "22a:s1,22b:k,22c:s1,22d:k,22e:s1,22f:k,230:s1,231:k,232:s1,233:k,23a:s2a2b,23b:s1,23c:k,",
    "23d:s-a3,23e:s2a28,23f:k,241:s1,242:k,243:s-c3,244:s45,245:s47,246:s1,247:k,248:s1,249:k,",
    "24a:s1,24b:k,24c:s1,24d:k,24e:s1,24f:k,370:s1,371:k,372:s1,373:k,376:s1,377:k,37f:s74,380:k,",
    "386:s26,387:k,388:s25,38b:k,38c:s40,38d:k,38e:s3f,390:k,391:s20,3a2:k,3a3:s20,3ac:k,3cf:s8,",
    "3d0:k,3d8:s1,3d9:k,3da:s1,3db:k,3dc:s1,3dd:k,3de:s1,3df:k,3e0:s1,3e1:k,3e2:s1,3e3:k,3e4:s1,",
    "3e5:k,3e6:s1,3e7:k,3e8:s1,3e9:k,3ea:s1,3eb:k,3ec:s1,3ed:k,3ee:s1,3ef:k,3f4:s-3c,3f5:k,",
    "3f7:s1,3f8:k,3f9:s-7,3fa:s1,3fb:k,3fd:s-82,400:s50,410:s20,430:k,460:s1,461:k,462:s1,463:k,",
    "464:s1,465:k,466:s1,467:k,468:s1,469:k,46a:s1,46b:k,46c:s1,46d:k,46e:s1,46f:k,470:s1,471:k,",
    "472:s1,473:k,474:s1,475:k,476:s1,477:k,478:s1,479:k,47a:s1,47b:k,47c:s1,47d:k,47e:s1,47f:k,",
    "480:s1,481:k,48a:s1,48b:k,48c:s1,48d:k,48e:s1,48f:k,490:s1,491:k,492:s1,493:k,494:s1,495:k,",
    "496:s1,497:k,498:s1,499:k,49a:s1,49b:k,49c:s1,49d:k,49e:s1,49f:k,4a0:s1,4a1:k,4a2:s1,4a3:k,",
    "4a4:s1,4a5:k,4a6:s1,4a7:k,4a8:s1,4a9:k,4aa:s1,4ab:k,4ac:s1,4ad:k,4ae:s1,4af:k,4b0:s1,4b1:k,",
    "4b2:s1,4b3:k,4b4:s1,4b5:k,4b6:s1,4b7:k,4b8:s1,4b9:k,4ba:s1,4bb:k,4bc:s1,4bd:k,4be:s1,4bf:k,",
    "4c0:sf,4c1:s1,4c2:k,4c3:s1,4c4:k,4c5:s1,4c6:k,4c7:s1,4c8:k,4c9:s1,4ca:k,4cb:s1,4cc:k,4cd:s1,",
    "4ce:k,4d0:s1,4d1:k,4d2:s1,4d3:k,4d4:s1,4d5:k,4d6:s1,4d7:k,4d8:s1,4d9:k,4da:s1,4db:k,4dc:s1,",
    "4dd:k,4de:s1,4df:k,4e0:s1,4e1:k,4e2:s1,4e3:k,4e4:s1,4e5:k,4e6:s1,4e7:k,4e8:s1,4e9:k,4ea:s1,",
    "4eb:k,4ec:s1,4ed:k,4ee:s1,4ef:k,4f0:s1,4f1:k,4f2:s1,4f3:k,4f4:s1,4f5:k,4f6:s1,4f7:k,4f8:s1,",
    "4f9:k,4fa:s1,4fb:k,4fc:s1,4fd:k,4fe:s1,4ff:k,500:s1,501:k,502:s1,503:k,504:s1,505:k,506:s1,",
    "507:k,508:s1,509:k,50a:s1,50b:k,50c:s1,50d:k,50e:s1,50f:k,510:s1,511:k,512:s1,513:k,514:s1,",
    "515:k,516:s1,517:k,518:s1,519:k,51a:s1,51b:k,51c:s1,51d:k,51e:s1,51f:k,520:s1,521:k,522:s1,",
    "523:k,524:s1,525:k,526:s1,527:k,528:s1,529:k,52a:s1,52b:k,52c:s1,52d:k,52e:s1,52f:k,531:s30,",
    "557:k,10a0:s1c60,10c6:k,10c7:s1c60,10c8:k,10cd:s1c60,10ce:k,13a0:s97d0,13f0:s8,13f6:k,",
    "1c89:s1,1c8a:k,1c90:s-bc0,1cbb:k,1cbd:s-bc0,1cc0:k,1e00:s1,1e01:k,1e02:s1,1e03:k,1e04:s1,",
    "1e05:k,1e06:s1,1e07:k,1e08:s1,1e09:k,1e0a:s1,1e0b:k,1e0c:s1,1e0d:k,1e0e:s1,1e0f:k,1e10:s1,",
    "1e11:k,1e12:s1,1e13:k,1e14:s1,1e15:k,1e16:s1,1e17:k,1e18:s1,1e19:k,1e1a:s1,1e1b:k,1e1c:s1,",
    "1e1d:k,1e1e:s1,1e1f:k,1e20:s1,1e21:k,1e22:s1,1e23:k,1e24:s1,1e25:k,1e26:s1,1e27:k,1e28:s1,",
    "1e29:k,1e2a:s1,1e2b:k,1e2c:s1,1e2d:k,1e2e:s1,1e2f:k,1e30:s1,1e31:k,1e32:s1,1e33:k,1e34:s1,",
    "1e35:k,1e36:s1,1e37:k,1e38:s1,1e39:k,1e3a:s1,1e3b:k,1e3c:s1,1e3d:k,1e3e:s1,1e3f:k,1e40:s1,",
    "1e41:k,1e42:s1,1e43:k,1e44:s1,1e45:k,1e46:s1,1e47:k,1e48:s1,1e49:k,1e4a:s1,1e4b:k,1e4c:s1,",
    "1e4d:k,1e4e:s1,1e4f:k,1e50:s1,1e51:k,1e52:s1,1e53:k,1e54:s1,1e55:k,1e56:s1,1e57:k,1e58:s1,",
    "1e59:k,1e5a:s1,1e5b:k,1e5c:s1,1e5d:k,1e5e:s1,1e5f:k,1e60:s1,1e61:k,1e62:s1,1e63:k,1e64:s1,",
    "1e65:k,1e66:s1,1e67:k,1e68:s1,1e69:k,1e6a:s1,1e6b:k,1e6c:s1,1e6d:k,1e6e:s1,1e6f:k,1e70:s1,",
    "1e71:k,1e72:s1,1e73:k,1e74:s1,1e75:k,1e76:s1,1e77:k,1e78:s1,1e79:k,1e7a:s1,1e7b:k,1e7c:s1,",
    "1e7d:k,1e7e:s1,1e7f:k,1e80:s1,1e81:k,1e82:s1,1e83:k,1e84:s1,1e85:k,1e86:s1,1e87:k,1e88:s1,",
    "1e89:k,1e8a:s1,1e8b:k,1e8c:s1,1e8d:k,1e8e:s1,1e8f:k,1e90:s1,1e91:k,1e92:s1,1e93:k,1e94:s1,",
    "1e95:k,1e9e:s-1dbf,1e9f:k,1ea0:s1,1ea1:k,1ea2:s1,1ea3:k,1ea4:s1,1ea5:k,1ea6:s1,1ea7:k,",
    "1ea8:s1,1ea9:k,1eaa:s1,1eab:k,1eac:s1,1ead:k,1eae:s1,1eaf:k,1eb0:s1,1eb1:k,1eb2:s1,1eb3:k,",
    "1eb4:s1,1eb5:k,1eb6:s1,1eb7:k,1eb8:s1,1eb9:k,1eba:s1,1ebb:k,1ebc:s1,1ebd:k,1ebe:s1,1ebf:k,",
    "1ec0:s1,1ec1:k,1ec2:s1,1ec3:k,1ec4:s1,1ec5:k,1ec6:s1,1ec7:k,1ec8:s1,1ec9:k,1eca:s1,1ecb:k,",
    "1ecc:s1,1ecd:k,1ece:s1,1ecf:k,1ed0:s1,1ed1:k,1ed2:s1,1ed3:k,1ed4:s1,1ed5:k,1ed6:s1,1ed7:k,",
    "1ed8:s1,1ed9:k,1eda:s1,1edb:k,1edc:s1,1edd:k,1ede:s1,1edf:k,1ee0:s1,1ee1:k,1ee2:s1,1ee3:k,",
    "1ee4:s1,1ee5:k,1ee6:s1,1ee7:k,1ee8:s1,1ee9:k,1eea:s1,1eeb:k,1eec:s1,1eed:k,1eee:s1,1eef:k,",
    "1ef0:s1,1ef1:k,1ef2:s1,1ef3:k,1ef4:s1,1ef5:k,1ef6:s1,1ef7:k,1ef8:s1,1ef9:k,1efa:s1,1efb:k,",
    "1efc:s1,1efd:k,1efe:s1,1eff:k,1f08:s-8,1f10:k,1f18:s-8,1f1e:k,1f28:s-8,1f30:k,1f38:s-8,",
    "1f40:k,1f48:s-8,1f4e:k,1f59:s-8,1f5a:k,1f5b:s-8,1f5c:k,1f5d:s-8,1f5e:k,1f5f:s-8,1f60:k,",
    "1f68:s-8,1f70:k,1f88:s-8,1f90:k,1f98:s-8,1fa0:k,1fa8:s-8,1fb0:k,1fb8:s-8,1fba:s-4a,1fbc:s-9,",
    "1fbd:k,1fc8:s-56,1fcc:s-9,1fcd:k,1fd8:s-8,1fda:s-64,1fdc:k,1fe8:s-8,1fea:s-70,1fec:s-7,",
    "1fed:k,1ff8:s-80,1ffa:s-7e,1ffc:s-9,1ffd:k,2126:s-1d5d,2127:k,212a:s-20bf,212b:s-2046,",
    "212c:k,2132:s1c,2133:k,2160:s10,2170:k,2183:s1,2184:k,24b6:s1a,24d0:k,2c00:s30,2c30:k,",
    "2c60:s1,2c61:k,2c62:s-29f7,2c63:s-ee6,2c64:s-29e7,2c65:k,2c67:s1,2c68:k,2c69:s1,2c6a:k,",
    "2c6b:s1,2c6c:k,2c6d:s-2a1c,2c6e:s-29fd,2c6f:s-2a1f,2c70:s-2a1e,2c71:k,2c72:s1,2c73:k,",
    "2c75:s1,2c76:k,2c7e:s-2a3f,2c80:s1,2c81:k,2c82:s1,2c83:k,2c84:s1,2c85:k,2c86:s1,2c87:k,",
    "2c88:s1,2c89:k,2c8a:s1,2c8b:k,2c8c:s1,2c8d:k,2c8e:s1,2c8f:k,2c90:s1,2c91:k,2c92:s1,2c93:k,",
    "2c94:s1,2c95:k,2c96:s1,2c97:k,2c98:s1,2c99:k,2c9a:s1,2c9b:k,2c9c:s1,2c9d:k,2c9e:s1,2c9f:k,",
    "2ca0:s1,2ca1:k,2ca2:s1,2ca3:k,2ca4:s1,2ca5:k,2ca6:s1,2ca7:k,2ca8:s1,2ca9:k,2caa:s1,2cab:k,",
    "2cac:s1,2cad:k,2cae:s1,2caf:k,2cb0:s1,2cb1:k,2cb2:s1,2cb3:k,2cb4:s1,2cb5:k,2cb6:s1,2cb7:k,",
    "2cb8:s1,2cb9:k,2cba:s1,2cbb:k,2cbc:s1,2cbd:k,2cbe:s1,2cbf:k,2cc0:s1,2cc1:k,2cc2:s1,2cc3:k,",
    "2cc4:s1,2cc5:k,2cc6:s1,2cc7:k,2cc8:s1,2cc9:k,2cca:s1,2ccb:k,2ccc:s1,2ccd:k,2cce:s1,2ccf:k,",
    "2cd0:s1,2cd1:k,2cd2:s1,2cd3:k,2cd4:s1,2cd5:k,2cd6:s1,2cd7:k,2cd8:s1,2cd9:k,2cda:s1,2cdb:k,",
    "2cdc:s1,2cdd:k,2cde:s1,2cdf:k,2ce0:s1,2ce1:k,2ce2:s1,2ce3:k,2ceb:s1,2cec:k,2ced:s1,2cee:k,",
    "2cf2:s1,2cf3:k,a640:s1,a641:k,a642:s1,a643:k,a644:s1,a645:k,a646:s1,a647:k,a648:s1,a649:k,",
    "a64a:s1,a64b:k,a64c:s1,a64d:k,a64e:s1,a64f:k,a650:s1,a651:k,a652:s1,a653:k,a654:s1,a655:k,",
    "a656:s1,a657:k,a658:s1,a659:k,a65a:s1,a65b:k,a65c:s1,a65d:k,a65e:s1,a65f:k,a660:s1,a661:k,",
    "a662:s1,a663:k,a664:s1,a665:k,a666:s1,a667:k,a668:s1,a669:k,a66a:s1,a66b:k,a66c:s1,a66d:k,",
    "a680:s1,a681:k,a682:s1,a683:k,a684:s1,a685:k,a686:s1,a687:k,a688:s1,a689:k,a68a:s1,a68b:k,",
    "a68c:s1,a68d:k,a68e:s1,a68f:k,a690:s1,a691:k,a692:s1,a693:k,a694:s1,a695:k,a696:s1,a697:k,",
    "a698:s1,a699:k,a69a:s1,a69b:k,a722:s1,a723:k,a724:s1,a725:k,a726:s1,a727:k,a728:s1,a729:k,",
    "a72a:s1,a72b:k,a72c:s1,a72d:k,a72e:s1,a72f:k,a732:s1,a733:k,a734:s1,a735:k,a736:s1,a737:k,",
    "a738:s1,a739:k,a73a:s1,a73b:k,a73c:s1,a73d:k,a73e:s1,a73f:k,a740:s1,a741:k,a742:s1,a743:k,",
    "a744:s1,a745:k,a746:s1,a747:k,a748:s1,a749:k,a74a:s1,a74b:k,a74c:s1,a74d:k,a74e:s1,a74f:k,",
    "a750:s1,a751:k,a752:s1,a753:k,a754:s1,a755:k,a756:s1,a757:k,a758:s1,a759:k,a75a:s1,a75b:k,",
    "a75c:s1,a75d:k,a75e:s1,a75f:k,a760:s1,a761:k,a762:s1,a763:k,a764:s1,a765:k,a766:s1,a767:k,",
    "a768:s1,a769:k,a76a:s1,a76b:k,a76c:s1,a76d:k,a76e:s1,a76f:k,a779:s1,a77a:k,a77b:s1,a77c:k,",
    "a77d:s-8a04,a77e:s1,a77f:k,a780:s1,a781:k,a782:s1,a783:k,a784:s1,a785:k,a786:s1,a787:k,",
    "a78b:s1,a78c:k,a78d:s-a528,a78e:k,a790:s1,a791:k,a792:s1,a793:k,a796:s1,a797:k,a798:s1,",
    "a799:k,a79a:s1,a79b:k,a79c:s1,a79d:k,a79e:s1,a79f:k,a7a0:s1,a7a1:k,a7a2:s1,a7a3:k,a7a4:s1,",
    "a7a5:k,a7a6:s1,a7a7:k,a7a8:s1,a7a9:k,a7aa:s-a544,a7ab:s-a54f,a7ac:s-a54b,a7ad:s-a541,",
    "a7ae:s-a544,a7af:k,a7b0:s-a512,a7b1:s-a52a,a7b2:s-a515,a7b3:s3a0,a7b4:s1,a7b5:k,a7b6:s1,",
    "a7b7:k,a7b8:s1,a7b9:k,a7ba:s1,a7bb:k,a7bc:s1,a7bd:k,a7be:s1,a7bf:k,a7c0:s1,a7c1:k,a7c2:s1,",
    "a7c3:k,a7c4:s-30,a7c5:s-a543,a7c6:s-8a38,a7c7:s1,a7c8:k,a7c9:s1,a7ca:k,a7cb:s-a567,a7cc:s1,",
    "a7cd:k,a7ce:s1,a7cf:k,a7d0:s1,a7d1:k,a7d2:s1,a7d3:k,a7d4:s1,a7d5:k,a7d6:s1,a7d7:k,a7d8:s1,",
    "a7d9:k,a7da:s1,a7db:k,a7dc:s-a641,a7dd:k,a7f5:s1,a7f6:k,ff21:s20,ff3b:k,10400:s28,10428:k,",
    "104b0:s28,104d4:k,10570:s27,1057b:k,1057c:s27,1058b:k,1058c:s27,10593:k,10594:s27,10596:k,",
    "10c80:s40,10cb3:k,10d50:s20,10d66:k,118a0:s20,118c0:k,16e40:s20,16e60:k,16ea0:s1b,16eb9:k,",
    "1e900:s22,1e922:k,"])

/-- **The case-ignorable code points.** -/
def caseIgnorable : RangeTable := RangeTable.ofText
  (String.join [
    "27,2e,3a,5e,60,a8,ad,af,b4,b7-b8,2b0-36f,374-375,37a,384-385,387,483-489,559,55f,591-5bd,",
    "5bf,5c1-5c2,5c4-5c5,5c7,5f4,600-605,610-61a,61c,640,64b-65f,670,6d6-6dd,6df-6e8,6ea-6ed,70f,",
    "711,730-74a,7a6-7b0,7eb-7f5,7fa,7fd,816-82d,859-85b,888,890-891,897-89f,8c9-902,93a,93c,",
    "941-948,94d,951-957,962-963,971,981,9bc,9c1-9c4,9cd,9e2-9e3,9fe,a01-a02,a3c,a41-a42,a47-a48,",
    "a4b-a4d,a51,a70-a71,a75,a81-a82,abc,ac1-ac5,ac7-ac8,acd,ae2-ae3,afa-aff,b01,b3c,b3f,b41-b44,",
    "b4d,b55-b56,b62-b63,b82,bc0,bcd,c00,c04,c3c,c3e-c40,c46-c48,c4a-c4d,c55-c56,c62-c63,c81,cbc,",
    "cbf,cc6,ccc-ccd,ce2-ce3,d00-d01,d3b-d3c,d41-d44,d4d,d62-d63,d81,dca,dd2-dd4,dd6,e31,e34-e3a,",
    "e46-e4e,eb1,eb4-ebc,ec6,ec8-ece,f18-f19,f35,f37,f39,f71-f7e,f80-f84,f86-f87,f8d-f97,f99-fbc,",
    "fc6,102d-1030,1032-1037,1039-103a,103d-103e,1058-1059,105e-1060,1071-1074,1082,1085-1086,",
    "108d,109d,10fc,135d-135f,1712-1714,1732-1733,1752-1753,1772-1773,17b4-17b5,17b7-17bd,17c6,",
    "17c9-17d3,17d7,17dd,180b-180f,1843,1885-1886,18a9,1920-1922,1927-1928,1932,1939-193b,",
    "1a17-1a18,1a1b,1a56,1a58-1a5e,1a60,1a62,1a65-1a6c,1a73-1a7c,1a7f,1aa7,1ab0-1add,1ae0-1aeb,",
    "1b00-1b03,1b34,1b36-1b3a,1b3c,1b42,1b6b-1b73,1b80-1b81,1ba2-1ba5,1ba8-1ba9,1bab-1bad,1be6,",
    "1be8-1be9,1bed,1bef-1bf1,1c2c-1c33,1c36-1c37,1c78-1c7d,1cd0-1cd2,1cd4-1ce0,1ce2-1ce8,1ced,",
    "1cf4,1cf8-1cf9,1d2c-1d6a,1d78,1d9b-1dff,1fbd,1fbf-1fc1,1fcd-1fcf,1fdd-1fdf,1fed-1fef,",
    "1ffd-1ffe,200b-200f,2018-2019,2024,2027,202a-202e,2060-2064,2066-206f,2071,207f,2090-209c,",
    "20d0-20f0,2c7c-2c7d,2cef-2cf1,2d6f,2d7f,2de0-2dff,2e2f,3005,302a-302d,3031-3035,303b,",
    "3099-309e,30fc-30fe,a015,a4f8-a4fd,a60c,a66f-a672,a674-a67d,a67f,a69c-a69f,a6f0-a6f1,",
    "a700-a721,a770,a788-a78a,a7f1-a7f4,a7f8-a7f9,a802,a806,a80b,a825-a826,a82c,a8c4-a8c5,",
    "a8e0-a8f1,a8ff,a926-a92d,a947-a951,a980-a982,a9b3,a9b6-a9b9,a9bc-a9bd,a9cf,a9e5-a9e6,",
    "aa29-aa2e,aa31-aa32,aa35-aa36,aa43,aa4c,aa70,aa7c,aab0,aab2-aab4,aab7-aab8,aabe-aabf,aac1,",
    "aadd,aaec-aaed,aaf3-aaf4,aaf6,ab5b-ab5f,ab69-ab6b,abe5,abe8,abed,fb1e,fbb2-fbc2,fe00-fe0f,",
    "fe13,fe20-fe2f,fe52,fe55,feff,ff07,ff0e,ff1a,ff3e,ff40,ff70,ff9e-ff9f,ffe3,fff9-fffb,101fd,",
    "102e0,10376-1037a,10780-10785,10787-107b0,107b2-107ba,10a01-10a03,10a05-10a06,10a0c-10a0f,",
    "10a38-10a3a,10a3f,10ae5-10ae6,10d24-10d27,10d4e,10d69-10d6d,10d6f,10eab-10eac,10ec5,",
    "10efa-10eff,10f46-10f50,10f82-10f85,11001,11038-11046,11070,11073-11074,1107f-11081,",
    "110b3-110b6,110b9-110ba,110bd,110c2,110cd,11100-11102,11127-1112b,1112d-11134,11173,",
    "11180-11181,111b6-111be,111c9-111cc,111cf,1122f-11231,11234,11236-11237,1123e,11241,112df,",
    "112e3-112ea,11300-11301,1133b-1133c,11340,11366-1136c,11370-11374,113bb-113c0,113ce,113d0,",
    "113d2,113e1-113e2,11438-1143f,11442-11444,11446,1145e,114b3-114b8,114ba,114bf-114c0,",
    "114c2-114c3,115b2-115b5,115bc-115bd,115bf-115c0,115dc-115dd,11633-1163a,1163d,1163f-11640,",
    "116ab,116ad,116b0-116b5,116b7,1171d,1171f,11722-11725,11727-1172b,1182f-11837,11839-1183a,",
    "1193b-1193c,1193e,11943,119d4-119d7,119da-119db,119e0,11a01-11a0a,11a33-11a38,11a3b-11a3e,",
    "11a47,11a51-11a56,11a59-11a5b,11a8a-11a96,11a98-11a99,11b60,11b62-11b64,11b66,11c30-11c36,",
    "11c38-11c3d,11c3f,11c92-11ca7,11caa-11cb0,11cb2-11cb3,11cb5-11cb6,11d31-11d36,11d3a,",
    "11d3c-11d3d,11d3f-11d45,11d47,11d90-11d91,11d95,11d97,11dd9,11ef3-11ef4,11f00-11f01,",
    "11f36-11f3a,11f40,11f42,11f5a,13430-13440,13447-13455,1611e-16129,1612d-1612f,16af0-16af4,",
    "16b30-16b36,16b40-16b43,16d40-16d42,16d6b-16d6c,16f4f,16f8f-16f9f,16fe0-16fe1,16fe3-16fe4,",
    "16ff2-16ff3,1aff0-1aff3,1aff5-1affb,1affd-1affe,1bc9d-1bc9e,1bca0-1bca3,1cf00-1cf2d,",
    "1cf30-1cf46,1d167-1d169,1d173-1d182,1d185-1d18b,1d1aa-1d1ad,1d242-1d244,1da00-1da36,",
    "1da3b-1da6c,1da75,1da84,1da9b-1da9f,1daa1-1daaf,1e000-1e006,1e008-1e018,1e01b-1e021,",
    "1e023-1e024,1e026-1e02a,1e030-1e06d,1e08f,1e130-1e13d,1e2ae,1e2ec-1e2ef,1e4eb-1e4ef,",
    "1e5ee-1e5ef,1e6e3,1e6e6,1e6ee-1e6ef,1e6f5,1e6ff,1e8d0-1e8d6,1e944-1e94b,1f3fb-1f3ff,e0001,",
    "e0020-e007f,e0100-e01ef,"])

/-- **The cased code points** that are not case-ignorable. -/
def casedLetters : RangeTable := RangeTable.ofText
  (String.join [
    "41-5a,61-7a,aa,b5,ba,c0-d6,d8-f6,f8-1ba,1bc-1bf,1c4-293,296-2af,370-373,376-377,37b-37d,37f,",
    "386,388-38a,38c,38e-3a1,3a3-3f5,3f7-481,48a-52f,531-556,560-588,10a0-10c5,10c7,10cd,",
    "10d0-10fa,10fd-10ff,13a0-13f5,13f8-13fd,1c80-1c8a,1c90-1cba,1cbd-1cbf,1d00-1d2b,1d6b-1d77,",
    "1d79-1d9a,1e00-1f15,1f18-1f1d,1f20-1f45,1f48-1f4d,1f50-1f57,1f59,1f5b,1f5d,1f5f-1f7d,",
    "1f80-1fb4,1fb6-1fbc,1fbe,1fc2-1fc4,1fc6-1fcc,1fd0-1fd3,1fd6-1fdb,1fe0-1fec,1ff2-1ff4,",
    "1ff6-1ffc,2102,2107,210a-2113,2115,2119-211d,2124,2126,2128,212a-212d,212f-2134,2139,",
    "213c-213f,2145-2149,214e,2160-217f,2183-2184,24b6-24e9,2c00-2c7b,2c7e-2ce4,2ceb-2cee,",
    "2cf2-2cf3,2d00-2d25,2d27,2d2d,a640-a66d,a680-a69b,a722-a76f,a771-a787,a78b-a78e,a790-a7dc,",
    "a7f5-a7f6,a7fa,ab30-ab5a,ab60-ab68,ab70-abbf,fb00-fb06,fb13-fb17,ff21-ff3a,ff41-ff5a,",
    "10400-1044f,104b0-104d3,104d8-104fb,10570-1057a,1057c-1058a,1058c-10592,10594-10595,",
    "10597-105a1,105a3-105b1,105b3-105b9,105bb-105bc,10c80-10cb2,10cc0-10cf2,10d50-10d65,",
    "10d70-10d85,118a0-118df,16e40-16e7f,16ea0-16eb8,16ebb-16ed3,1d400-1d454,1d456-1d49c,",
    "1d49e-1d49f,1d4a2,1d4a5-1d4a6,1d4a9-1d4ac,1d4ae-1d4b9,1d4bb,1d4bd-1d4c3,1d4c5-1d505,",
    "1d507-1d50a,1d50d-1d514,1d516-1d51c,1d51e-1d539,1d53b-1d53e,1d540-1d544,1d546,1d54a-1d550,",
    "1d552-1d6a5,1d6a8-1d6c0,1d6c2-1d6da,1d6dc-1d6fa,1d6fc-1d714,1d716-1d734,1d736-1d74e,",
    "1d750-1d76e,1d770-1d788,1d78a-1d7a8,1d7aa-1d7c2,1d7c4-1d7cb,1df00-1df09,1df0b-1df1e,",
    "1df25-1df2a,1e900-1e943,1f130-1f149,1f150-1f169,1f170-1f189,"])

end Text

end Backoffice
