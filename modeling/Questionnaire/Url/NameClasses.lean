/-
# Classes of characters in domain names

The rules for domain names look at how letters join to their neighbours and in
which direction they are written. The tables are data of the standard, in
hexadecimal. Characters of no listed direction are written from left to right.
-/

import Questionnaire.Text.CodePoints
import Questionnaire.Text.Category

namespace Questionnaire.DomainName

/-- Letters that join to both sides. -/
def dualJoining : CharacterSet := .ofRanges (Text.codePointRanges
  "620 626 628 62A-62E 633-63F 641-647 649-64A 66E-66F 678-687 69A-6BF 6C1-6C2 6CC 6CE 6D0-6D1
   6FA-6FC 6FF 712-714 71A-71D 71F-727 729 72B 72D-72E 74E-758 75C-76A 76D-770 772 775-777
   77A-77F 7CA-7EA 841-845 848 84A-853 855 860 862-865 868 886 889-88D 88F 8A0-8A9 8AF-8B0
   8B3-8B8 8BA-8C8 1807 1820-1878 1887-18A8 18AA A840-A871 10AC0-10AC4 10AD3-10AD6 10AD8-10ADC
   10ADE-10AE0 10AEB-10AEE 10B80 10B82 10B86-10B88 10B8A-10B8B 10B8D 10B90 10BAD-10BAE
   10D01-10D21 10D23 10EC3-10EC4 10EC6-10EC7 10F30-10F32 10F34-10F44 10F51-10F53 10F70-10F73
   10F76-10F81 10FB0 10FB2-10FB3 10FB8 10FBB-10FBC 10FBE-10FBF 10FC1 10FC4 10FCA 1E900-1E943")

/-- Letters that join to the letter after them only. -/
def leftJoining : CharacterSet := .ofRanges (Text.codePointRanges
  "A872 10ACD 10AD7 10D00 10FCB")

/-- Letters that join to the letter before them only. -/
def rightJoining : CharacterSet := .ofRanges (Text.codePointRanges
  "622-625 627 629 62F-632 648 671-673 675-677 688-699 6C0 6C3-6CB 6CD 6CF 6D2-6D3 6D5 6EE-6EF
   710 715-719 71E 728 72A 72C 72F 74D 759-75B 76B-76C 771 773-774 778-779 840 846-847 849 854
   856-858 867 869-86A 870-882 88E 8AA-8AC 8AE 8B1-8B2 8B9 10AC5 10AC7 10AC9-10ACA 10ACE-10AD2
   10ADD 10AE1 10AE4 10AEF 10B81 10B83-10B85 10B89 10B8C 10B8E-10B8F 10B91 10BA9-10BAC 10D22
   10EC2 10F33 10F54 10F74-10F75 10FB4-10FB6 10FB9-10FBA 10FBD 10FC2-10FC3 10FC9")

/-- Marks that stay on their base. -/
def nonspacingMarks : CharacterSet := GeneralCategory.membersOfAll ["mn", "me"]

/-- Marks of all kinds. -/
def marks : CharacterSet := GeneralCategory.membersOfAll ["mc", "mn", "me"]

/-- Characters that joining looks through. -/
def transparentJoining : CharacterSet :=
  (nonspacingMarks.union (GeneralCategory.members "cf")).difference (.ofRanges (Text.codePointRanges
    "600-605 6DD 890-891 8E2 180E 200C-200D 2066-2069 110BD 110CD 1E94B"))

/-- Letters written from right to left. -/
def rightToLeft : CharacterSet := .ofRanges (Text.codePointRanges
  "5BE 5C0 5C3 5C6 5D0-5F4 608 60B 60D 61B-64A 66D-66F 671-6D5 6E5-6E6 6EE-6EF 6FA-710 712-72F
   74D-7A5 7B1-7EA 7F4-7F5 7FA 7FE-815 81A 824 828 830-858 85E-88F 8A0-8C9 FBB2-FBD2 FD90-FDCE
   FE73 10800-1091B 10920-10A00 10A10-10A35 10A40-10AE4 10AEB-10B35 10B40-10D23 10D40-10D4F
   10D6E-10D8F 10E80-10EA9 10EAD-10ED8 10F00-10F45 10F51-10F81 10F86-10FF6 1E800-1E8CF
   1E922-1E943 1E94B-1ED3D")

/-- Numbers of the Arabic kind. -/
def arabicNumbers : CharacterSet := .ofRanges (Text.codePointRanges
  "660-669 66B-66C 10D30-10D39 10E60-10E7E")

/-- Numbers of the European kind. -/
def europeanNumbers : CharacterSet := .ofRanges (Text.codePointRanges
  "30-39 6F0-6F9 102E1-102FB")

/-- Characters without a direction of their own. -/
def neutrals : CharacterSet := .ofRanges (Text.codePointRanges
  "0-8 E-1B 21-2F 3A-60 7B-D7 F7 2B9-2BA 2C2-2CF 2D2-2ED 2EF-2FF 375 3F6 58A-58F 606-607
   609-60A 60C 60E-60F 66A 6DE 6E9 7F6-7F9 9F2-9F3 9FB AF1 BF3-BFA C78-C7E E3F F3A-F3D
   1390-1399 1400 169B-169C 17DB 17F0-180A 1940-1945 19DE-19FF 200C-20C1 2104-214D 218A-2335
   237B-2394 2396-2426 2440-26AB 26AD-27FF 2900-2B95 2B97-2BFF 2CE5-2CEA 2CF9-2CFF 2E00-3004
   3008-3020 3030 3037 303D-303F 30A0 30FB 31C0-31E3 4DC0-4DFF A490-A4C6 A60D-A60F A673
   A67E-A67F A700-A721 A788 A828-A82B A838-A839 A874-A877 AB6A-AB6B FD3E-FD4F FDCF-FDFF
   FE45-FE46 10101 10140-1018C 10190-101A0 1091F 10B39-10B3F 11052-11065 11660-1166C
   11FD5-11FF1 16FE2 1D1E9-1D241 1D245 1D300-1D356 1E2FF 1EEF0-1F12F 1F16D-1F16F 1F1AD
   1F260-1F6D7 1F6DC-1F776 1F77B-1F8B1 1F900-1FA53 1FA60-1FA88 1FA90-1FABD 1FABF-1FAC5
   1FACE-1FADB 1FAE0-1FAE8 1FAF0-1FBCA")

end Questionnaire.DomainName
