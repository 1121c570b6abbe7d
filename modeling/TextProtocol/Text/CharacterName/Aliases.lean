/-!
# Other names of characters

Corrected, alternative and abbreviated names, each with the code point that it stands for.
-/

namespace TextProtocol.Text.CharacterName

/-- Other names, each followed by its code point in hexadecimal. -/
def aliases : String :=
  "NUL@0|NULL@0|SOH@1|<b<R$A!F@1|<b<RTEXT@2|STX@2|,QTEXT@3|ETX@3|,Q?ZMIS.8@4|EOT@4|ENQ@5|ENQUIRY@5|
 &3@6|_$@6|ALERT@7|!j@7|B&3SPACE@8|BS@8|^p<&@9|&1<&@9|HT@9|TAB@9|,Q&U@A|EOL@A|LF@A|&9FEED@A|
 NEW &U@A|NL@A|&9<&@B|$7<&@B|VT@B|FF@C|)mFEED@C|CARRIAGE RE$;N@D|CR@D|$[!F-^0!4@E|^0)-@E|SO@E|
 $[!F-^0ZERO@F|^0IN@F|SI@F|DATA LINK ESCAPE%n|DLE%n|DC1%o|_l!4%o|DC2:K|_l!g:K|DC3@13|_l.Z@13|
 DC4@14|_l!+@14|NAK@15|<0_$@15|SYN+:|SYNCH$-<>IDLE+:|,Q?ZMIS>pB$[@17|ETB@17|CAN@18|CANCEL@18|
 ,Q%K@19|EOM@19|+d@1A|+dSTITUTE@1A|ESC@1B|ESCAPE@1B|FILE;f@1C|FS@1C|_Z!+@1C|GROUP;f*B|GS*B|_Z.Z*B|
 _Z!g,]|)NOR]y,]|RS,]|_Z!4&:|UNIT;f&:|US&:|SP.n|DEL@7F|DELETE@7F|PAD@80|PADD(t$.AC!.@80|%_OCTET &IS
 ET@81|HOP@81|BPH@82|%EAK $vMIT%dHERE@82|NBH@83|.A%EAK HERE@83|IND@84|(>@84|NEL@85|NEXT &U@85|
 SSA@86|<bT OF%hLEC%dAREA@86|)~OF%hLEC%dAREA@87|ESA@87|^p<&%hT@88|&1<&%hT@88|HTS@88|^p<&!EJUSTIFIC
 $6@89|&1<&!EJUSTIFIC$6@89|HTJ@89|&9<&%hT@8A|$7<&%hT@8A|VTS@8A|_P!%@8B|_P:j@8B|PLD@8B|_PB&3W!S@8C|
 _PUP@8C|PLU@8C|<h(>@8D|<h&9FEED@8D|RI@8D|S!FLE SHIFT !g@8E|S!FLE-SHIFT-2@8E|SS2@8E|S!FLE SHIFT .Z@
 8F|S!FLE-SHIFT-3@8F|SS3@8F|DCS@90|DEV<S+3ROL!h(a@90|PRIV:hUSE !4@91|PRIV:hUSE-1@91|PU1@91|
 PRIV:hUSE !g@92|PRIV:hUSE-2@92|PU2@92|*Z?ZMIT!hATE@93|STS@93|CANCEL _S@94|CCH@94|MESSAGE WAIT!F@95
 |MW@95|SPA@96|<b<RGU!S!HAREA@96|<b<R%vTEC%dAREA@96|,QGU!S!HAREA@97|,Q%vTEC%dAREA@97|EPA@97|SOS@98|
 <bT OF!h(a@98|SGC@99|S!F!N!$PHIC C$.AC(rIN&ZDUCER@99|SCI@9A|S!FLE C$.AC(rIN&ZDUCER@9A|+3ROL S$BENC
 E IN&ZDUCER@9B|CSI@9B|ST@9C|ST&g!.&!%.@9C|OPERAT!F SYSTEM(uM!l@9D|OSC@9D|PM@9E|PRIVACY MESSAGE@9E|
 APC@9F|APPLIC$z%v!$M(uM!l@9F|NBSP@A0|SHY@AD|!M!dGHA@1A2|.aGHA@1A3|CGJ@34F|ALM@61C|SYRIAC SUBL^E_w
 %:@709|KANNADA !DLLLA@CDE|LA=(FO ,t@E9D|LA=(FO FAY@E9F|LA=(RO@EA3|LA=(LO@EA5|[A&kBKA-;9G ~J@FD0|
 <5J.X>2>3-(k%oEC|<5J.X>2>3-(8(k%oED|<5J.XSE.X SS!Z>3%oEE|<5J.X>2>3-;H%oEF|F%P@180B|F&L@180C|
 FVS3@180D|MVS@180E|FVS4@180F|ZWSP@200B|ZWNJ@200C|ZWJ@200D|LRM@200E|RLM@200F|LRE.n2A|RLE.n2B|
 PDF.n2C|LRO.n2D|RLO.n2E|NNBSP.n2F|MMSP.n5F|WJ.n60|LRI.n66|RLI.n67|FSI.n68|PDI.n69|WEIERSTRA%TEL+eT
 !X^2@2118|MICR !cUS$W@2448|MICR .U$W@2449|>&!]*k@2B7A|?o!]*k@2B7C|YI<7?~@A015|;7+V]Y%<@AA6E|%P:v0|
 &L:v1|VS3:v2|VS4:v3|VS5:v4|VS6:v5|VS7:v6|VS8:v7|VS9:v8|%P0:v9|%P1:vA|=E:vB|%P3:vC|%P4:vD|%P5:vE|
 %P6:vF|<O=0>>(v@FE18|BOM@FEFF|BYTE ORD!A!8@FEFF|ZWNBSP@FEFF|CUNEI!L$FNU11 )=:K2D4|CUNEI!L$FNU11 %D
 NU11 BUR %DBUR:K2D5|].!dH+:E56|].!dNG+:E57|].!WH+:E76|].!WNG+:E77|HENTAIG(s!DE-1@1B001|B;5FTHORA S
 KLIRON CHRO&.VASIS*B0C5|%P,+00|%P8!(01|%P+(02|&L0!(03|&L+%04|&L,T05|&L,U06|&L.y07|&L+&08|&L,r09|
 &L,+0A|&L8!(0B|&L+(0C|VS30!(0D|VS3+%0E|VS3,T0F|VS3,U10|VS34!(11|VS3+&12|VS3,r13|VS3,+14|VS38!(15|
 VS3+(16|VS40!(17|VS4+%18|VS4,T19|VS4,U1A|VS4.y1B|VS4+&1C|VS4,r1D|VS4,+1E|VS48!(1F|VS4+(20|
 VS50!(21|VS5+%22|VS5,T23|VS5,U24|VS5.y25|VS5+&26|VS56!(27|VS57!(28|VS58!(29|VS5+(2A|VS60!(2B|
 VS6+%2C|VS6,T2D|VS6,U2E|VS6.y2F|VS6+&30|VS6,r31|VS67!(32|VS68!(33|VS6+(34|VS70!(35|VS7+%36|
 VS7,T37|VS7,U38|VS7.y39|VS7+&3A|VS7,r3B|VS7,+3C|VS78!(3D|VS7+(3E|VS80!(3F|VS8+%40|VS8,T41|VS8,U42|
 VS8.y43|VS8+&44|VS8,r45|VS8,+46|VS88!(47|VS8+(48|VS90!(49|VS9+%4A|VS9,T4B|VS9,U4C|VS9.y4D|VS9+&4E|
 VS9,r4F|VS9,+50|VS98!(51|VS9+(52|%P00!(53|%P0+%54|%P0,T55|%P0,U56|%P0.y57|%P0+&58|%P0,r59|%P0,+5A|
 %P08!(5B|%P0+(5C|%P10!(5D|%P1+%5E|%P12!(5F|%P13!(60|%P14!(61|%P1+&62|%P1,r63|%P1,+64|%P18!(65|
 %P1+(66|=E0!(67|=E+%68|=E,T69|=E,U6A|=E.y6B|=E+&6C|=E,r6D|=E,+6E|=E8!(6F|=E+(70|%P30!(71|%P3+%72|
 %P3,T73|%P3,U74|%P34!(75|%P3+&76|%P3,r77|%P3,+78|%P38!(79|%P3+(7A|%P40!(7B|%P4+%7C|%P4,T7D|
 %P4,U7E|%P4.y7F|%P4+&80|%P4,r81|%P4,+82|%P48!(83|%P4+(84|%P50!(85|%P5+%86|%P5,T87|%P5,U88|%P5.y89|
 %P5+&8A|%P56!(8B|%P57!(8C|%P58!(8D|%P5+(8E|%P60!(8F|%P6+%90|%P6,T91|%P6,U92|%P6.y93|%P6+&94|
 %P6,r95|%P67!(96|%P68!(97|%P6+(98|%P70!(99|%P7+%9A|%P7,T9B|%P7,U9C|%P7.y9D|%P7+&9E|%P7,r9F|
 %P7,+A0|%P78!(A1|%P7+(A2|%P80!(A3|%P8+%A4|%P8,TA5|%P8,UA6|%P8.yA7|%P8+&A8|%P8,rA9|%P8,+AA|
 %P88!(AB|%P8+(AC|%P90!(AD|%P9+%AE|%P9,TAF|%P9,UB0|%P9.yB1|%P9+&B2|%P9,rB3|%P9,+B4|%P98!(B5|
 %P9+(B6|&L00!(B7|&L0+%B8|&L0,TB9|&L0,UBA|&L0.yBB|&L0+&BC|&L0,rBD|&L0,+BE|&L08!(BF|&L0+(C0|
 &L10!(C1|&L1+%C2|&L12!(C3|&L13!(C4|&L14!(C5|&L1+&C6|&L1,rC7|&L1,+C8|&L18!(C9|&L1+(CA|&L20!(CB|
 &L2+%CC|&L2,TCD|&L2,UCE|&L24!(CF|&L2+&D0|&L2,rD1|&L2,+D2|&L28!(D3|&L2+(D4|&L30!(D5|&L3+%D6|
 &L3,TD7|&L3,UD8|&L34!(D9|&L3+&DA|&L3,rDB|&L3,+DC|&L38!(DD|&L3+(DE|&L40!(DF|&L4+%E0|&L4,TE1|
 &L4,UE2|&L4.yE3|&L4+&E4|&L4,rE5|&L4,+E6|&L48!(E7|&L4+(E8|&L50!(E9|&L5+%EA|&L5,TEB|&L5,UEC|&L5.yED|
 &L5+&EE|&L56!(EF"

end TextProtocol.Text.CharacterName
