import TaskSieve.Text.Combining

/-!
# Joining of characters

In some scripts characters are joined to their neighbours.  The characters that
ask for joining or for not joining have no look of their own, so they stand only
where they matter: after a sign that takes away a vowel, and, to keep two
characters apart, between characters that would be joined.
-/

namespace TaskSieve.Text

/-- How a character is joined. -/
inductive Joining
  | none
  /-- To the character after it. -/
  | onward
  /-- To the character before it. -/
  | backward
  | both
  /-- It stands at another character and does not keep it from being joined. -/
  | transparent
  deriving DecidableEq, Repr

namespace Joining

/-- The joining with a letter. -/
def ofLetter : List Char → Joining
  | ['L'] => .onward
  | ['R'] => .backward
  | ['D'] => .both
  | ['T'] => .transparent
  | _ => .none

/-- The ranges of joinings. -/
def ranges : Ranges Joining := .ofLines ofLetter
  ["0:- 300:T 371:- 483:T 48B:- 591:T 5BE:- 5BF:T 5C0:- 5C1:T 5C3:- 5C4:T",
   "5C6:- 5C7:T 5D0:- 610:T 61B:- 620:D 621:- 622:R 626:D 627:R 628:D 629:R",
   "62A:D 62F:R 633:D 640:- 641:D 648:R 649:D 64B:T 660:- 66E:D 670:T 671:R",
   "674:- 679:D 688:R 69A:D 6C0:R 6C1:D 6C3:R 6CC:D 6CD:R 6CE:D 6CF:R 6D0:D",
   "6D2:R 6D4:- 6D5:R 6D6:T 6DE:- 6DF:T 6E5:- 6E7:T 6E9:- 6EA:T 6EE:R 6F0:-",
   "6FA:D 6FD:- 6FF:D 700:- 710:R 711:T 712:D 715:R 71A:D 71E:R 71F:D 728:R",
   "729:D 72A:R 72B:D 72C:R 72D:D 72F:R 730:T 74D:R 74E:D 759:R 75C:D 76B:R",
   "76D:D 771:R 772:D 773:R 775:D 778:R 77A:D 780:- 7A6:T 7B1:- 7CA:D 7EB:T",
   "7F4:- 7FD:T 7FE:- 816:T 81A:- 81B:T 824:- 825:T 828:- 829:T 830:- 840:R",
   "841:D 846:R 848:D 849:R 84A:D 854:R 855:D 856:R 859:T 85E:- 860:D 861:-",
   "862:D 866:- 867:R 868:D 869:R 883:- 886:D 887:- 889:D 88E:R 88F:D 897:T",
   "8A0:D 8AA:R 8AD:- 8AE:R 8AF:D 8B1:R 8B3:D 8B9:R 8BA:D 8C9:- 8CA:T 903:-",
   "93A:T 93B:- 93C:T 93D:- 941:T 949:- 94D:T 94E:- 951:T 960:- 962:T 964:-",
   "981:T 982:- 9BC:T 9BD:- 9C1:T 9C7:- 9CD:T 9CE:- 9E2:T 9E6:- 9FE:T A03:-",
   "A3C:T A3E:- A41:T A5C:- A70:T A72:- A75:T A76:- A81:T A83:- ABC:T ABD:-",
   "AC1:T AC9:- ACD:T AD0:- AE2:T AE6:- AFA:T B02:- B3C:T B3D:- B3F:T B40:-",
   "B41:T B47:- B4D:T B57:- B62:T B66:- B82:T B83:- BC0:T BC1:- BCD:T BD0:-",
   "C00:T C01:- C04:T C05:- C3C:T C3D:- C3E:T C41:- C46:T C58:- C62:T C66:-",
   "C81:T C82:- CBC:T CBD:- CBF:T CC0:- CC6:T CC7:- CCC:T CD5:- CE2:T CE6:-",
   "D00:T D02:- D3B:T D3D:- D41:T D46:- D4D:T D4E:- D62:T D66:- D81:T D82:-",
   "DCA:T DCF:- DD2:T DD8:- E31:T E32:- E34:T E3F:- E47:T E4F:- EB1:T EB2:-",
   "EB4:T EBD:- EC8:T ED0:- F18:T F1A:- F35:T F36:- F37:T F38:- F39:T F3A:-",
   "F71:T F7F:- F80:T F85:- F86:T F88:- F8D:T FBE:- FC6:T FC7:- 102D:T 1031:-",
   "1032:T 1038:- 1039:T 103B:- 103D:T 103F:- 1058:T 105A:- 105E:T 1061:-",
   "1071:T 1075:- 1082:T 1083:- 1085:T 1087:- 108D:T 108E:- 109D:T 109E:-",
   "135D:T 1360:- 1712:T 1715:- 1732:T 1734:- 1752:T 1760:- 1772:T 1780:-",
   "17B7:T 17BE:- 17C6:T 17C7:- 17C9:T 17D4:- 17DD:T 17E0:- 1807:D 1808:-",
   "1820:D 1880:- 1885:T 1887:D 18A9:T 18AA:D 18B0:- 1920:T 1923:- 1927:T",
   "1929:- 1932:T 1933:- 1939:T 1940:- 1A17:T 1A19:- 1A1B:T 1A1E:- 1A56:T",
   "1A57:- 1A58:T 1A61:- 1A62:T 1A63:- 1A65:T 1A6D:- 1A73:T 1A80:- 1AB0:T",
   "1B04:- 1B34:T 1B35:- 1B36:T 1B3B:- 1B3C:T 1B3D:- 1B42:T 1B43:- 1B6B:T",
   "1B74:- 1B80:T 1B82:- 1BA2:T 1BA6:- 1BA8:T 1BAA:- 1BAB:T 1BAE:- 1BE6:T",
   "1BE7:- 1BE8:T 1BEA:- 1BED:T 1BEE:- 1BEF:T 1BF2:- 1C2C:T 1C34:- 1C36:T",
   "1C3B:- 1CD0:T 1CD3:- 1CD4:T 1CE1:- 1CE2:T 1CE9:- 1CED:T 1CEE:- 1CF4:T",
   "1CF5:- 1CF8:T 1CFA:- 1DC0:T 1E01:- 20D0:T 2104:- 2CEF:T 2CF3:- 2D7F:T",
   "2D80:- 2DE0:T 2E00:- 302A:T 302E:- 3099:T 309D:- A66F:T A673:- A674:T",
   "A67E:- A69E:T A6A0:- A6F0:T A6F2:- A802:T A803:- A806:T A807:- A80B:T",
   "A80C:- A825:T A827:- A82C:T A830:- A840:D A872:L A873:- A8C4:T A8CE:-",
   "A8E0:T A8F2:- A8FF:T A900:- A926:T A92E:- A947:T A952:- A980:T A983:-",
   "A9B3:T A9B4:- A9B6:T A9BA:- A9BC:T A9BE:- A9E5:T A9E6:- AA29:T AA2F:-",
   "AA31:T AA33:- AA35:T AA40:- AA43:T AA44:- AA4C:T AA4D:- AA7C:T AA7D:-",
   "AAB0:T AAB1:- AAB2:T AAB5:- AAB7:T AAB9:- AABE:T AAC0:- AAC1:T AAC2:-",
   "AAEC:T AAEE:- AAF6:T AB01:- ABE5:T ABE6:- ABE8:T ABE9:- ABED:T ABF0:-",
   "FB1E:T FBB2:- FE20:T FE45:- 101FD:T 10280:- 102E0:T 102E1:- 10376:T",
   "10380:- 10A01:T 10A10:- 10A38:T 10A40:- 10AC0:D 10AC5:R 10AC6:- 10AC7:R",
   "10AC8:- 10AC9:R 10ACB:- 10ACD:L 10ACE:R 10AD3:D 10AD7:L 10AD8:D 10ADD:R",
   "10ADE:D 10AE1:R 10AE2:- 10AE4:R 10AE5:T 10AEB:D 10AEF:R 10AF0:- 10B80:D",
   "10B81:R 10B82:D 10B83:R 10B86:D 10B89:R 10B8A:D 10B8C:R 10B8D:D 10B8E:R",
   "10B90:D 10B91:R 10B99:- 10BA9:R 10BAD:D 10BAF:- 10D00:L 10D01:D 10D22:R",
   "10D23:D 10D24:T 10D30:- 10D69:T 10D6E:- 10EAB:T 10EAD:- 10EC2:R 10EC3:D",
   "10EC5:- 10EC6:D 10ED0:- 10EFA:T 10F00:- 10F30:D 10F33:R 10F34:D 10F45:-",
   "10F46:T 10F51:D 10F54:R 10F55:- 10F70:D 10F74:R 10F76:D 10F82:T 10F86:-",
   "10FB0:D 10FB1:- 10FB2:D 10FB4:R 10FB7:- 10FB8:D 10FB9:R 10FBB:D 10FBD:R",
   "10FBE:D 10FC0:- 10FC1:D 10FC2:R 10FC4:D 10FC5:- 10FC9:R 10FCA:D 10FCB:L",
   "10FE0:- 11001:T 11002:- 11038:T 11047:- 11070:T 11071:- 11073:T 11075:-",
   "1107F:T 11082:- 110B3:T 110B7:- 110B9:T 110BB:- 110C2:T 110D0:- 11100:T",
   "11103:- 11127:T 1112C:- 1112D:T 11136:- 11173:T 11174:- 11180:T 11182:-",
   "111B6:T 111BF:- 111C9:T 111CD:- 111CF:T 111D0:- 1122F:T 11232:- 11234:T",
   "11235:- 11236:T 11238:- 1123E:T 1123F:- 11241:T 11280:- 112DF:T 112E0:-",
   "112E3:T 112F0:- 11300:T 11302:- 1133B:T 1133D:- 11340:T 11341:- 11366:T",
   "11380:- 113BB:T 113C2:- 113CE:T 113CF:- 113D0:T 113D1:- 113D2:T 113D3:-",
   "113E1:T 11400:- 11438:T 11440:- 11442:T 11445:- 11446:T 11447:- 1145E:T",
   "1145F:- 114B3:T 114B9:- 114BA:T 114BB:- 114BF:T 114C1:- 114C2:T 114C4:-",
   "115B2:T 115B8:- 115BC:T 115BE:- 115BF:T 115C1:- 115DC:T 11600:- 11633:T",
   "1163B:- 1163D:T 1163E:- 1163F:T 11641:- 116AB:T 116AC:- 116AD:T 116AE:-",
   "116B0:T 116B6:- 116B7:T 116B8:- 1171D:T 1171E:- 1171F:T 11720:- 11722:T",
   "11726:- 11727:T 11730:- 1182F:T 11838:- 11839:T 1183B:- 1193B:T 1193D:-",
   "1193E:T 1193F:- 11943:T 11944:- 119D4:T 119DC:- 119E0:T 119E1:- 11A01:T",
   "11A0B:- 11A33:T 11A39:- 11A3B:T 11A3F:- 11A47:T 11A50:- 11A51:T 11A57:-",
   "11A59:T 11A5C:- 11A8A:T 11A97:- 11A98:T 11A9A:- 11B60:T 11B61:- 11B62:T",
   "11B65:- 11B66:T 11B67:- 11C30:T 11C3E:- 11C3F:T 11C40:- 11C92:T 11CA9:-",
   "11CAA:T 11CB1:- 11CB2:T 11CB4:- 11CB5:T 11D00:- 11D31:T 11D46:- 11D47:T",
   "11D50:- 11D90:T 11D93:- 11D95:T 11D96:- 11D97:T 11D98:- 11EF3:T 11EF5:-",
   "11F00:T 11F02:- 11F36:T 11F3E:- 11F40:T 11F41:- 11F42:T 11F43:- 11F5A:T",
   "11FB0:- 13440:T 13441:- 13447:T 13460:- 1611E:T 1612A:- 1612D:T 16130:-",
   "16AF0:T 16AF5:- 16B30:T 16B37:- 16F4F:T 16F50:- 16F8F:T 16F93:- 16FE4:T",
   "16FF0:- 1BC9D:T 1BC9F:- 1CF00:T 1CF50:- 1D167:T 1D16A:- 1D17B:T 1D183:-",
   "1D185:T 1D18C:- 1D1AA:T 1D1AE:- 1D242:T 1D245:- 1DA00:T 1DA37:- 1DA3B:T",
   "1DA6D:- 1DA75:T 1DA76:- 1DA84:T 1DA85:- 1DA9B:T 1DF00:- 1E000:T 1E100:-",
   "1E130:T 1E137:- 1E2AE:T 1E2C0:- 1E2EC:T 1E2F0:- 1E4EC:T 1E4F0:- 1E5EE:T",
   "1E5F0:- 1E6E3:T 1E6E4:- 1E6E6:T 1E6E7:- 1E6EE:T 1E6F0:- 1E6F5:T 1E6FE:-",
   "1E8D0:T 1E922:D 1E944:T 1E950:-"]

/-- How a character is joined. -/
def ofCharacter (character : Char) : Joining :=
  (ranges.value? character.toNat).getD .none

/-- Whether the first of some characters that is not transparent is joined in
one of two ways. -/
def reaches (first second : Joining) (characters : List Char) : Bool :=
  match (characters.map ofCharacter).dropWhile (· == .transparent) with
  | [] => false
  | joining :: _ => joining == first || joining == second

end Joining

/-- The character that keeps its neighbours apart. -/
def nonJoiner : Char := '\u200c'

/-- The character that joins its neighbours. -/
def joiner : Char := '\u200d'

/-- Whether joiners stand only where they matter, after the characters before,
held backwards. -/
def hasProperJoiners : (before : List Char) → List Char → Bool
  | _, [] => true
  | before, character :: rest =>
      let silent := before.head?.any silencesVowel
      let proper :=
        if character == joiner then silent
        else if character == nonJoiner then
          silent || (Joining.reaches .onward .both before &&
            Joining.reaches .backward .both rest)
        else true
      proper && hasProperJoiners (character :: before) rest

end TaskSieve.Text
